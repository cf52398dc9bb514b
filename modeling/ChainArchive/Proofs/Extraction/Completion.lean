import ChainArchive.Proofs.Extraction.Course

namespace ChainArchive

variable {σ : Type}

/-! Chains that a node delivers in full. -/

structure Delivery where
  block : Block
  transactions : List Transaction

inductive Returns (node : Node σ) : σ → List String → List Transaction → σ → Prop where
  | nil {state : σ} : Returns node state [] [] state
  | cons {state next last : σ} {hash : String} {rest : List String}
      {reply : Reply Transaction} {tx : Transaction} {txs : List Transaction} :
      node.transaction hash state = (reply, next) →
      reply.result = .ok tx →
      reply.stop = false →
      Returns node next rest txs last →
      Returns node state (hash :: rest) (tx :: txs) last

/-- The node returns these blocks, numbered from the given number on, and all their
transactions, and no stop is asked for. -/
inductive Delivers (node : Node σ) : Nat → σ → List Delivery → σ → Prop where
  | nil {number : Nat} {state : σ} : Delivers node number state [] state
  | cons {number : Nat} {state next middle last : σ} {reply : Reply Block}
      {delivery : Delivery} {rest : List Delivery} :
      node.block number state = (reply, next) →
      reply.result = .ok delivery.block →
      reply.stop = false →
      delivery.block.number.value = number →
      Returns node next delivery.block.transactions delivery.transactions middle →
      Delivers node (number + 1) middle rest last →
      Delivers node number state (delivery :: rest) last

namespace Delivery

def queries (delivery : Delivery) (number : Nat) : List Query :=
  .block number :: delivery.block.transactions.map .transaction

def plan (number : Nat) (chain : List Delivery) : List Query :=
  (chain.zipIdx number).flatMap fun entry => entry.1.queries entry.2

def transactionCount (chain : List Delivery) : Nat :=
  (chain.flatMap fun delivery => delivery.block.transactions).length

theorem plan_cons (number : Nat) (delivery : Delivery) (rest : List Delivery) :
    plan number (delivery :: rest) = delivery.queries number ++ plan (number + 1) rest := by
  simp [plan]

end Delivery

namespace Extraction

open Answer

theorem course_of_returns {node : Node σ} {state last : σ} {hashes : List String}
    {txs : List Transaction} (h : Returns node state hashes txs last)
    (number count : Nat) :
    ∃ answers,
      Course node (.transactions number hashes count) state answers
        (.blocks (number + 1) count) last ∧
      (∀ answer ∈ answers, answer.stop = false) ∧
      answers.map Answer.query = hashes.map .transaction ∧ transactions answers = txs := by
  induction h with
  | nil => exact ⟨[], .close .done, by simp, rfl, rfl⟩
  | @cons _ _ _ hash rest reply tx txs hreply hresult hstop _ ih =>
      obtain ⟨answers, hcourse, hquiet, hqueries, htxs⟩ := ih
      refine ⟨.transaction hash reply :: answers, .transaction hreply hresult hcourse,
        ?_, ?_, ?_⟩
      · simpa [Answer.stop, hstop] using hquiet
      · simp [Answer.query, hqueries]
      · simp [transactions, Answer.transaction?, hresult, Except.toOption]
        exact htxs

theorem course_of_delivers {node : Node σ} {number : Nat} {state last : σ}
    {chain : List Delivery} (h : Delivers node number state chain last) :
    ∃ answers,
      Course node (.blocks number chain.length) state answers
        (.blocks (number + chain.length) 0) last ∧
      (∀ answer ∈ answers, answer.stop = false) ∧
      answers.map Answer.query = Delivery.plan number chain ∧
      transactions answers = chain.flatMap Delivery.transactions := by
  induction h with
  | nil => exact ⟨[], .done, by simp, rfl, rfl⟩
  | @cons number _ _ _ _ reply delivery rest hreply hresult hstop hnumber hreturns _ ih =>
      obtain ⟨answers, hcourse, hquiet, hqueries, htxs⟩ :=
        course_of_returns hreturns number rest.length
      obtain ⟨others, hothers, hquiet', hqueries', htxs'⟩ := ih
      have hlength : number + (delivery :: rest).length = number + 1 + rest.length := by
        simp only [List.length_cons]
        omega
      refine ⟨.block number reply :: (answers ++ others), ?_, ?_, ?_, ?_⟩
      · rw [hlength]
        exact .block hreply hresult hnumber (hcourse.trans hothers)
      · intro answer hanswer
        rcases List.mem_cons.mp hanswer with rfl | hmem
        · exact hstop
        · exact (List.mem_append.mp hmem).elim (hquiet answer) (hquiet' answer)
      · simp [Answer.query, Delivery.plan_cons, Delivery.queries, hqueries, hqueries']
      · have hnone : transactions [.block number reply] = [] := rfl
        rw [← List.singleton_append, transactions_append, transactions_append, hnone, htxs,
          htxs']
        rfl

theorem Returns.length_eq {node : Node σ} {state last : σ} {hashes : List String}
    {txs : List Transaction} (h : Returns node state hashes txs last) :
    txs.length = hashes.length := by
  induction h with
  | nil => rfl
  | cons _ _ _ _ ih => simp [ih]

theorem Delivers.length_eq {node : Node σ} {number : Nat} {state last : σ}
    {chain : List Delivery} (h : Delivers node number state chain last) :
    (chain.flatMap Delivery.transactions).length = Delivery.transactionCount chain := by
  induction h with
  | nil => rfl
  | cons _ _ _ _ hreturns _ ih =>
      simp only [Delivery.transactionCount] at ih ⊢
      simp only [List.flatMap_cons, List.length_append, Returns.length_eq hreturns, ih]

/-- An extraction from a node that delivers the whole chain, to a path where a file can be
created, asks for the height, for each block in turn and for each transaction of the block
in turn, and for nothing else; it returns the totals of the chain, and the archive holds
the line of each transaction in the order of the chain. -/
theorem extract_delivered {node : Node σ} {start next last : σ} {disk : Disk}
    {path : String} {reply : Reply Quantity} {head : Quantity} {chain : List Delivery}
    (hpath : disk.Accepts path) (hreply : node.height start = (reply, next))
    (hhead : reply.result = .ok head) (hstop : reply.stop = false)
    (hlength : chain.length = head.value) (hchain : Delivers node 1 next chain last) :
    let outcome := Run.perform (extract (Run.world node) path) (.start start disk false)
    outcome.1 = .ok ⟨head.value, head.value, Delivery.transactionCount chain⟩ ∧
      outcome.2.queries = .height :: Delivery.plan 1 chain ∧
      outcome.2.disk.read path =
        .ok ((chain.flatMap Delivery.transactions).flatMap fun tx =>
          tx.line ++ [byte '\n']) := by
  obtain ⟨answers, hcourse, hquiet, hqueries, htxs⟩ := course_of_delivers hchain
  rw [hlength] at hcourse
  have hsent : SentUnstopped (false || reply.stop) answers := by
    rw [hstop]
    exact sentUnstopped_of_quiet hquiet
  have hfinished := extract_finishes hpath hreply hhead hcourse hsent rfl
  rw [hqueries, htxs, Delivers.length_eq hchain] at hfinished
  exact hfinished

/-- A block with one transaction twice, and an empty block. -/
theorem extract_delivered_two_blocks :
    let tx : Transaction :=
      ⟨"0x1", none, ⟨7, by decide⟩, none, none, none, none, none, none, none, []⟩
    let first : Block := ⟨⟨1, by decide⟩, none, ["0xaa", "0xaa"]⟩
    let second : Block := ⟨⟨2, by decide⟩, none, []⟩
    let node := Node.steady (.ok ⟨2, by decide⟩)
      (fun number => .ok (if number = 1 then first else second)) (fun _ => .ok tx)
      (fun _ => false)
    let outcome := Run.perform (extract (Run.world node) "log") (.start () ⟨[]⟩ false)
    outcome.1 = .ok ⟨2, 2, 2⟩ ∧
      outcome.2.queries =
        [.height, .block 1, .transaction "0xaa", .transaction "0xaa", .block 2] ∧
      outcome.2.disk.read "log" = .ok (Archive.text [tx, tx]) := by
  intro tx first second node
  have hpath : (⟨[]⟩ : Disk).Accepts "log" :=
    ⟨["log"], ⟨[(["log"], .file [])]⟩, by with_unfolding_all rfl, by decide⟩
  have hreturns : Returns node () first.transactions [tx, tx] () :=
    .cons rfl rfl rfl (.cons rfl rfl rfl .nil)
  have hchain : Delivers node 1 () [⟨first, [tx, tx]⟩, ⟨second, []⟩] () :=
    .cons rfl rfl rfl rfl hreturns (.cons rfl rfl rfl rfl .nil .nil)
  exact extract_delivered hpath rfl rfl rfl rfl hchain

end Extraction

end ChainArchive
