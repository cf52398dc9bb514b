import ChainArchive.Proofs.Extraction.Course

namespace ChainArchive

variable {σ : Type}

namespace Extraction

/-! Extractions that an answer breaks off. -/

/-- After a course of good replies the next answer is an error of the node, or a block of
another number than was asked for. The extraction asks for nothing more, fails with what
was asked for and the node's own error under it, and leaves exactly the lines of the
transactions that the node returned before. -/
theorem extract_broken {node : Node σ} {start next reached last : σ} {disk : Disk}
    {path : String} {reply : Reply Quantity} {head : Quantity} {answers : List Answer}
    {agenda : Agenda} {target : Target} {answer : Answer} {trouble : Trouble}
    (hpath : disk.Accepts path) (hreply : node.height start = (reply, next))
    (hhead : reply.result = .ok head) (hstop : reply.stop = false)
    (hcourse : Course node (.blocks 1 head.value) next answers agenda reached)
    (hquiet : ∀ answer ∈ answers, answer.stop = false)
    (hnext : agenda.next? = some target)
    (hanswer : node.answer reached target.query = (answer, last))
    (htrouble : answer.trouble? = some trouble) :
    let outcome := Run.perform (extract (Run.world node) path) (.start start disk false)
    outcome.1 = .error (trouble.under (.fetch target)) ∧
      (∀ own, answer.error? = some own → trouble = own) ∧
      outcome.2.queries = .height :: (answers.map Answer.query ++ [target.query]) ∧
      outcome.2.disk.read path = .ok (Archive.text (Answer.transactions answers)) := by
  have hsent : Answer.SentUnstopped (false || reply.stop) answers := by
    rw [hstop]
    exact Answer.sentUnstopped_of_quiet hquiet
  obtain ⟨agenda', tally, run, hperform, habreast, hasks, -, hnode, hqueries,
    htranscript⟩ := extract_reaches hpath hreply hhead hcourse hsent
  have hunstopped : run.stopped = false := by
    rw [habreast.traced.stopped_eq, htranscript]
    simpa [Answer.stop, hstop] using hquiet
  have hhalts : Halts node .none ⟨agenda', tally, run⟩
      (.error (trouble.under (.fetch target)), run.heard answer last) :=
    .broken (hasks.trans hnext) hunstopped (hnode ▸ hanswer) htrouble
  have hquery : answer.query = target.query := by
    rw [← node.query_answer reached target.query, hanswer]
  have hread : run.disk.read path = .ok (Archive.text (Answer.transactions answers)) := by
    have hrecorded := habreast.recorded.read_eq
    rwa [htranscript] at hrecorded
  rw [hperform, hhalts.outcome_eq]
  refine ⟨rfl, ?_, ?_, ?_⟩
  · intro own hown
    rw [Answer.trouble?_of_error? hown] at htrouble
    exact (Option.some.inj htrouble).symm
  · simp [conclude, hqueries, hquery]
  · simpa [conclude] using hread

/-- The second of two transactions of a block is refused. -/
theorem extract_broken_second_transaction :
    let tx : Transaction :=
      ⟨"0x1", none, ⟨7, by decide⟩, none, none, none, none, none, none, none, []⟩
    let block : Block := ⟨⟨1, by decide⟩, none, ["0xaa", "0xbb", "0xcc"]⟩
    let node := Node.steady (.ok ⟨2, by decide⟩) (fun _ => .ok block)
      (fun hash => if hash = "0xbb" then .error (.of (.said "gone")) else .ok tx)
      (fun _ => false)
    let outcome := Run.perform (extract (Run.world node) "log") (.start () ⟨[]⟩ false)
    outcome.1 = .error ⟨.fetch (.transaction 1 "0xbb"), [.said "gone"]⟩ ∧
      outcome.2.queries = [.height, .block 1, .transaction "0xaa", .transaction "0xbb"] ∧
      outcome.2.disk.read "log" = .ok (Archive.text [tx]) := by
  intro tx block node
  let answers : List Answer :=
    [.block 1 ⟨.ok block, [], false, 0⟩, .transaction "0xaa" ⟨.ok tx, [], false, 0⟩]
  have hpath : (⟨[]⟩ : Disk).Accepts "log" :=
    ⟨["log"], ⟨[(["log"], .file [])]⟩, by with_unfolding_all rfl, by decide⟩
  have hcourse : Course node (.blocks 1 2) () answers
      (.transactions 1 ["0xbb", "0xcc"] 1) () :=
    .block rfl rfl rfl (.transaction rfl rfl .done)
  have hquiet : ∀ answer ∈ answers, answer.stop = false := by
    simp [answers, Answer.stop]
  let refused : Answer := .transaction "0xbb" ⟨.error (.of (.said "gone")), [], false, 0⟩
  have hheight : node.height () = (⟨.ok ⟨2, by decide⟩, [], false, 0⟩, ()) := rfl
  have hnext : (Agenda.transactions 1 ["0xbb", "0xcc"] 1).next? =
      some (.transaction 1 "0xbb") := rfl
  have hanswer : node.answer () (Target.transaction 1 "0xbb").query = (refused, ()) := rfl
  have htrouble : refused.trouble? = some (.of (.said "gone")) := rfl
  have hbroken :=
    extract_broken hpath hheight rfl rfl hcourse hquiet hnext hanswer htrouble
  exact ⟨hbroken.1, hbroken.2.2⟩

end Extraction

end ChainArchive
