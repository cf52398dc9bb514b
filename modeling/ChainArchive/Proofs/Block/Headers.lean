import Mathlib.Data.List.Nodup
import ChainArchive.Proofs.Block
import ChainArchive.Proofs.Transaction.Members

namespace ChainArchive

open Json Bytes

namespace Block

/-! Blocks do not depend on the headers that nobody asks for, nor on the layout. -/

theorem mem_typedNames {name : String} :
    name ∈ typedNames ↔ ∃ field, layout.name field = name := by
  have hall : ∀ field, field ∈ [Field.number, .hash, .transactions] := by
    intro field
    cases field <;> simp
  exact layout.mem_map_name hall

theorem layout_sound (field : Field) : (layout.decoder field).Sound := by
  cases field with
  | number => exact Quantity.decoder_faithful.sound
  | hash => exact Transaction.option_text_faithful.sound
  | transactions => exact Transaction.text_faithful.sound.list

theorem record_asks : record.Asks View.tree (· ∈ typedNames) :=
  layout.asks (fun _ => mem_typedNames) layout_sound

/-! What three values, or their defaults, make. -/

theorem hash_makes_null {budget : Nat} {hash : Option String} :
    (Decoder.option .text).Makes budget .null hash ↔ hash = none := by
  rw [(Decoder.Means.option Decoder.text_uniform).makes_iff]
  simp

theorem transactions_makes_nil {budget : Nat} {hashes : List String} :
    (Decoder.list .text).Makes (budget + 1) (.array []) hashes ↔ hashes = [] := by
  rw [(Decoder.Uniform.list Decoder.text_uniform).makes_iff]
  simp

theorem Draft.finish_eq_ok {draft : Draft} {block : Block} :
    draft.finish = .ok block ↔ draft.number = some block.number ∧
      draft.hash.getD none = block.hash ∧ draft.transactions.getD [] = block.transactions := by
  obtain ⟨number, hash, transactions⟩ := draft
  obtain ⟨n, h, ts⟩ := block
  cases number <;> simp [Draft.finish, required]

structure Shows (budget : Nat) (members : List (String × Tree)) (block : Block) : Prop where
  number : ∃ tree, members.lookup "number" = some tree ∧
    Quantity.decoder.Makes budget tree block.number
  hash : (Decoder.option .text).Makes budget ((members.lookup "hash").getD .null) block.hash
  transactions : (Decoder.list .text).Makes budget
    ((members.lookup "transactions").getD (.array [])) block.transactions

theorem lays_object_iff {budget : Nat} {members : List (String × Tree)} {block : Block} :
    record.Lays (budget + 1) (.object members) block ↔
      (∀ field, (members.map Prod.fst).count (layout.name field) ≤ 1) ∧
        Shows (budget + 1) members block := by
  rw [Record.Lays, layout.sums_iff]
  constructor
  · intro hlays
    obtain ⟨draft, htells, hfinish⟩ := hlays
    obtain ⟨hnumber, hhash, htransactions⟩ := Draft.finish_eq_ok.mp hfinish
    have hgiven : Option.Rel _ _ draft.number := htells.given .number
    rw [hnumber] at hgiven
    exact ⟨htells.once, rel_some_iff.mp hgiven,
      (makes_getD_iff fun _ => hash_makes_null).mpr ⟨_, htells.given .hash, hhash⟩,
      (makes_getD_iff fun _ => transactions_makes_nil).mpr
        ⟨_, htells.given .transactions, htransactions⟩⟩
  · intro hshows
    obtain ⟨honce, hnumber, hhash, htransactions⟩ := hshows
    obtain ⟨hash, hhash, hdefault⟩ := (makes_getD_iff fun _ => hash_makes_null).mp hhash
    obtain ⟨transactions, htransactions, hempty⟩ :=
      (makes_getD_iff fun _ => transactions_makes_nil).mp htransactions
    refine ⟨⟨some block.number, hash, transactions⟩, ⟨honce, fun field => ?_⟩,
      Draft.finish_eq_ok.mpr ⟨rfl, hdefault, hempty⟩⟩
    cases field with
    | number => exact rel_some_iff.mpr hnumber
    | hash => exact hhash
    | transactions => exact htransactions

theorem makes_put (field : Field) (draft : Draft) {budget : Nat} {tree : Tree}
    {a : layout.Value field} (h : (layout.decoder field).Makes budget tree a) :
    ((layout.decoder field).map (layout.put field draft)).Makes budget tree
      (layout.put field draft a) :=
  Decoder.map_makes_iff.mpr ⟨a, h, rfl⟩

theorem Shows.lays_array {budget : Nat} {number hash transactions : Tree}
    {parts : List (String × Tree)} {block : Block} (h : Shows (budget + 1) parts block)
    (hleads : parts <+: [("number", number), ("hash", hash), ("transactions", transactions)]) :
    record.Lays (budget + 1) (.array (parts.map Prod.snd)) block := by
  obtain ⟨⟨tree, hfound, hnumber⟩, hhash, htransactions⟩ := h
  have hlays : ∀ {items last}, Record.Fills (budget + 1) Draft.columns items .empty last →
      last.finish = .ok block → record.Lays (budget + 1) (.array items) block :=
    fun hfills hfinish => ⟨_, _, rfl, hfills, hfinish⟩
  rcases List.prefix_cons_iff.mp hleads with rfl | ⟨rest, rfl, hbehind⟩
  · cases hfound
  cases hfound
  have hfirst := makes_put .number .empty hnumber
  rcases List.prefix_cons_iff.mp hbehind with rfl | ⟨rest, rfl, hlater⟩
  · have hnone := hash_makes_null.mp hhash
    have hnil := transactions_makes_nil.mp htransactions
    exact hlays ⟨_, hfirst, rfl, rfl, rfl⟩ (Draft.finish_eq_ok.mpr ⟨rfl, hnone.symm, hnil.symm⟩)
  have hsecond := makes_put .hash (layout.put .number .empty block.number) hhash
  rcases List.prefix_cons_iff.mp hlater with rfl | ⟨rest, rfl, hlast⟩
  · have hnil := transactions_makes_nil.mp htransactions
    exact hlays ⟨_, hfirst, _, hsecond, rfl, rfl⟩ (Draft.finish_eq_ok.mpr ⟨rfl, rfl, hnil.symm⟩)
  obtain rfl := List.prefix_nil.mp hlast
  have hthird := makes_put .transactions
    (layout.put .hash (layout.put .number .empty block.number) block.hash) htransactions
  exact hlays ⟨_, hfirst, _, hsecond, _, hthird, rfl⟩ (Draft.finish_eq_ok.mpr ⟨rfl, rfl, rfl⟩)

/-! The three members, with their defaults for those that lack. -/

def filled (members : List (String × Tree)) : List (String × Tree) :=
  [("number", (members.lookup "number").getD .null), ("hash", (members.lookup "hash").getD .null),
    ("transactions", (members.lookup "transactions").getD (.array []))]

/-- Parts of the block may be left out that have their defaults. -/
structure Abridges (block : Block) (parts whole : List (String × Tree)) : Prop where
  sublist : parts.Sublist whole
  number : "number" ∈ parts.map Prod.fst
  hash : "hash" ∈ parts.map Prod.fst ∨ block.hash = none
  transactions : "transactions" ∈ parts.map Prod.fst ∨ block.transactions = []

theorem nodup_filled (members : List (String × Tree)) :
    ((filled members).map Prod.fst).Nodup := by
  have hnames : (filled members).map Prod.fst = typedNames := rfl
  rw [hnames]
  decide

theorem Abridges.keeps {block : Block} {parts members : List (String × Tree)}
    (h : block.Abridges parts (filled members)) {name : String} {fallback : Tree}
    (holds : Tree → Prop) (hgiven : holds (((filled members).lookup name).getD fallback))
    (hdefault : name ∈ parts.map Prod.fst ∨ holds fallback) :
    holds ((parts.lookup name).getD fallback) := by
  by_cases hmem : name ∈ parts.map Prod.fst
  · rw [lookup_of_sublist h.sublist (nodup_filled members) hmem]
    exact hgiven
  · rw [lookup_eq_none hmem]
    exact hdefault.resolve_left hmem

theorem Shows.abridged {budget : Nat} {members parts : List (String × Tree)} {block : Block}
    (h : Shows (budget + 1) members block) (hparts : block.Abridges parts (filled members)) :
    Shows (budget + 1) parts block where
  number := by
    obtain ⟨tree, hfound, hnumber⟩ := h.number
    refine ⟨tree, ?_, hnumber⟩
    rw [lookup_of_sublist hparts.sublist (nodup_filled members) hparts.number]
    simp [filled, hfound]
  hash := hparts.keeps (fun tree => (Decoder.option .text).Makes (budget + 1) tree block.hash)
    h.hash (hparts.hash.imp_right hash_makes_null.mpr)
  transactions :=
    hparts.keeps (fun tree => (Decoder.list .text).Makes (budget + 1) tree block.transactions)
      h.transactions (hparts.transactions.imp_right transactions_makes_nil.mpr)

/-- Headers of other names and the order of members make no difference to a block, nor does
it whether its parts stand in an object or in a row, or are left out for their defaults. -/
theorem decode_rearranged {text gap inner : Bytes} {block : Block} (hgap : Blank gap)
    (htext : text = gap ++ byte '\x7b' :: inner) (hdecode : decoder.decode text = .ok block) :
    (∃ members, Offers (· ∈ typedNames) text members) ∧
    ∀ members, Offers (· ∈ typedNames) text members →
      (∀ other others, Offers (· ∈ typedNames) other others → others.Perm members →
        decoder.decode other = .ok block) ∧
      ∀ parts, block.Abridges parts (filled members) →
        (∀ other others, Offers (· ∈ typedNames) other others → others.Perm parts →
          decoder.decode other = .ok block) ∧
        (parts <+: filled members →
          ∀ row, Document row (.array (parts.map Prod.snd)) → decoder.decode row = .ok block) := by
  refine ⟨record_asks.holds hgap htext hdecode, fun members hoffers => ?_⟩
  have hdecoded : ∀ {other others parts}, Offers (· ∈ typedNames) other others →
      others.Perm parts →
      (decoder.decode other = .ok block ↔ record.Lays (maxDepth - 1) (.object parts) block) := by
    intro other others parts hoffers hperm
    rw [Record.Lays, ← layout.sums_perm hperm]
    exact record_uniform.toFollows.decode_holds record_asks.other hoffers
  have hlays := (hdecoded hoffers (.refl members)).mp hdecode
  refine ⟨fun other others hother hperm => (hdecoded hother hperm).mpr hlays, ?_⟩
  intro parts hparts
  have hshows := (lays_object_iff.mp hlays).2.abridged hparts
  refine ⟨fun other others hother hperm => (hdecoded hother hperm).mpr ?_,
    fun hleads row hrow => ?_⟩
  · refine lays_object_iff.mpr ⟨fun field => ?_, hshows⟩
    exact List.nodup_iff_count_le_one.mp
      ((hparts.sublist.map Prod.fst).nodup (nodup_filled members)) _
  · exact (record_uniform.means.decode_iff hrow).mpr ⟨_, rfl, hshows.lays_array hleads⟩

/-- Two headers that nobody asks for, one of them again, and a block without a hash. -/
theorem decode_rearranged_logs :
    let number : String × Tree := ("number", .string "0x10")
    let transactions : String × Tree := ("transactions", .array [.string "b"])
    let logs : String × Tree := ("logs", .object [("number", .null)])
    ∃ block, decoder.decode (Tree.object [logs, transactions, number]).text = .ok block ∧
      decoder.decode (Tree.object [number, logs, logs, transactions, ("size", .null)]).text =
        .ok block ∧
      decoder.decode (Tree.array [number.2, .null, transactions.2]).text = .ok block := by
  intro number transactions logs
  obtain ⟨block, hdecode⟩ :
      ∃ block, decoder.decode (Tree.object [logs, transactions, number]).text = .ok block :=
    ⟨_, rfl⟩
  obtain ⟨-, hrearranged⟩ := decode_rearranged blank_nil rfl hdecode
  have hoffers := fun members =>
    (Tree.document_text (.object members)).offers (· ∈ typedNames)
  obtain ⟨hother, hparts⟩ :=
    hrearranged [transactions, number] (hoffers [logs, transactions, number])
  have hwhole : block.Abridges (filled [transactions, number]) (filled [transactions, number]) :=
    ⟨.refl _, by decide, .inl (by decide), .inl (by decide)⟩
  refine ⟨block, hdecode, hother _ [number, transactions] ?_ (.swap _ _ _), ?_⟩
  · exact hoffers [number, logs, logs, transactions, ("size", .null)]
  · exact (hparts _ hwhole).2 (List.prefix_refl _) _ (Tree.document_text _)

end Block

end ChainArchive
