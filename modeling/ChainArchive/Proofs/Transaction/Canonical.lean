import ChainArchive.Proofs.Encodings
import ChainArchive.Proofs.Json.Equality
import ChainArchive.Proofs.Transaction.Meaning

namespace ChainArchive

open Bytes Json

namespace Transaction

/-! Ways to give the same typed member. -/

namespace Field

def Encodes : Field → Tree → Nat → Prop
  | nonce | blockNumber | transactionIndex | gas => Quantity.Encodes
  | value | gasPrice | maxFeePerGas | maxPriorityFeePerGas => Wei.Encodes
  | sender | recipient => fun _ _ => False

def Optional (field : Field) : Prop := field ≠ sender ∧ field ≠ nonce

theorem Optional.reads_null {field : Field} (h : field.Optional) {budget : Nat}
    {a : field.Value} : field.decoder.Reads budget .null a ↔ field.default? = some a := by
  cases field with
  | sender => exact absurd rfl h.1
  | nonce => exact absurd rfl h.2
  | _ =>
      refine Decoder.option_reads_null.trans ?_
      exact ⟨fun hnone => congrArg some hnone.symm, fun hsome => (Option.some.inj hsome).symm⟩

theorem reads_encoded {field : Field} {tree tree' : Tree} {n : Nat} (h : field.Encodes tree n)
    (h' : field.Encodes tree' n) {budget : Nat} {a : field.Value}
    (hread : field.decoder.Reads budget tree a) : field.decoder.Reads budget tree' a := by
  cases field with
  | sender | recipient => exact h.elim
  | nonce => exact h'.reads_iff.mpr (h.reads_iff.mp hread)
  | blockNumber | transactionIndex | gas =>
      obtain ⟨q, rfl, hq⟩ := (Decoder.option_reads h.ne_null).mp hread
      exact (Decoder.option_reads h'.ne_null).mpr
        ⟨q, rfl, h'.reads_iff.mpr (h.reads_iff.mp hq)⟩
  | value | gasPrice | maxFeePerGas | maxPriorityFeePerGas =>
      obtain ⟨w, rfl, hw⟩ := (Decoder.option_reads h.ne_null).mp hread
      exact (Decoder.option_reads h'.ne_null).mpr
        ⟨w, rfl, h'.reads_iff.mpr (h.reads_iff.mp hw)⟩

theorem ofJson_array (field : Field) (items : List Json) (a : field.Value) :
    field.decoder.ofJson (.array items) ≠ .ok a := by
  cases field <;> rintro ⟨⟩

theorem ofJson_object (field : Field) (members : List (String × Json)) (a : field.Value) :
    field.decoder.ofJson (.object members) ≠ .ok a := by
  cases field <;> rintro ⟨⟩

theorem reads_reordered {field : Field} {tree tree' : Tree} (h : Reordered tree tree')
    {budget : Nat} {a : field.Value} (hread : field.decoder.Reads budget tree a) :
    field.decoder.Reads budget tree' a := by
  cases h with
  | null | bool | number | string => exact hread
  | array =>
      obtain ⟨value, hvalue, ha⟩ := hread
      cases budget with
      | zero => cases hvalue
      | succ budget =>
          obtain ⟨found, -, rfl⟩ := Option.map_eq_some_iff.mp hvalue
          exact absurd ha (field.ofJson_array found a)
  | object =>
      obtain ⟨value, hvalue, ha⟩ := hread
      cases budget with
      | zero => cases hvalue
      | succ budget =>
          obtain ⟨found, -, rfl⟩ := Option.map_eq_some_iff.mp hvalue
          exact absurd ha (field.ofJson_object found a)

end Field

/-! Texts that carry the same transaction. -/

/-- What stands under a name, if anything does, is given in another way: its members are
reordered, a quantity or an amount is encoded differently, or a null is left out or added. -/
inductive Restated : String → Option Tree → Option Tree → Prop where
  | lacking (name : String) : Restated name none none
  | reordered (name : String) {tree tree' : Tree} (h : Reordered tree tree') :
      Restated name (some tree) (some tree')
  | encoded (field : Field) {tree tree' : Tree} {n : Nat} (h : field.Encodes tree n)
      (h' : field.Encodes tree' n) : Restated field.name (some tree) (some tree')
  | dropped (field : Field) (h : field.Optional) : Restated field.name (some .null) none
  | added (field : Field) (h : field.Optional) : Restated field.name none (some .null)

structure Restate (members members' : List (String × Tree)) : Prop where
  once : (members.map Prod.fst).Nodup
  once' : (members'.map Prod.fst).Nodup
  names : ∀ name, Restated name (members.lookup name) (members'.lookup name)

theorem Restated.symm {name : String} {found found' : Option Tree}
    (h : Restated name found found') : Restated name found' found := by
  cases h with
  | lacking => exact .lacking name
  | reordered _ h => exact .reordered name h.symm
  | encoded field h h' => exact .encoded field h' h
  | dropped field h => exact .added field h
  | added field h => exact .dropped field h

theorem Restate.symm {members members' : List (String × Tree)} (h : Restate members members') :
    Restate members' members :=
  ⟨h.once', h.once, fun name => (h.names name).symm⟩

theorem Restated.typed {field : Field} {name : String} {found found' : Option Tree}
    (h : Restated name found found') (hname : name = field.name) {budget : Nat}
    {a : field.Value}
    (hgiven : ∀ tree, found = some tree → field.decoder.Reads budget tree a)
    (hlacking : found = none → field.default? = some a) :
    (∀ tree', found' = some tree' → field.decoder.Reads budget tree' a) ∧
      (found' = none → field.default? = some a) := by
  cases h with
  | lacking => exact ⟨nofun, hlacking⟩
  | reordered _ h =>
      refine ⟨?_, nofun⟩
      rintro _ ⟨⟩
      exact Field.reads_reordered h (hgiven _ rfl)
  | encoded other h h' =>
      obtain rfl := Field.name_injective hname
      refine ⟨?_, nofun⟩
      rintro _ ⟨⟩
      exact Field.reads_encoded h h' (hgiven _ rfl)
  | dropped other h =>
      obtain rfl := Field.name_injective hname
      exact ⟨nofun, fun _ => h.reads_null.mp (hgiven _ rfl)⟩
  | added other h =>
      obtain rfl := Field.name_injective hname
      refine ⟨?_, nofun⟩
      rintro _ ⟨⟩
      exact h.reads_null.mpr (hlacking rfl)

theorem Restated.untyped {name : String} {found found' : Option Tree}
    (h : Restated name found found') (hname : name ∉ typedNames) :
    (found = none ∧ found' = none) ∨
      ∃ tree tree', found = some tree ∧ found' = some tree' ∧ Reordered tree tree' := by
  cases h with
  | lacking => exact .inl ⟨rfl, rfl⟩
  | reordered _ h => exact .inr ⟨_, _, rfl, rfl, h⟩
  | encoded field | dropped field | added field => exact absurd field.name_mem hname

theorem Makes.restate {budget : Nat} {members members' : List (String × Tree)}
    {tx : Transaction} (h : Makes budget members tx) (hsame : Restate members members') :
    Makes budget members' tx := by
  have htyped : ∀ field : Field, _ := fun field =>
    (hsame.names field.name).typed rfl (h.given field) (h.lacking field)
  refine ⟨fun field => (htyped field).1, fun field => (htyped field).2,
    fun name tree' hname htree' => ?_, fun name hname hnone' => ?_, h.untyped, h.ascending⟩
  · rcases (hsame.names name).untyped hname with
      ⟨-, hnone'⟩ | ⟨tree, _, htree, hfound', hreordered⟩
    · rw [htree'] at hnone'
      cases hnone'
    · rw [htree'] at hfound'
      cases hfound'
      obtain ⟨value, hread, hkept⟩ := h.kept name tree hname htree
      obtain ⟨value', hread', hnormal⟩ := hreordered.read? hread
      exact ⟨value', hread', by rw [hkept, hnormal]⟩
  · rcases (hsame.names name).untyped hname with
      ⟨hnone, -⟩ | ⟨tree, tree', -, hfound', -⟩
    · exact h.others name hname hnone
    · rw [hnone'] at hfound'
      cases hfound'

theorem same_self (tx : Transaction) : tx.same tx = true := by
  have hextras : Json.sameMembers tx.extras tx.extras = true :=
    sameMembers_self fun member _ => Json.same_self member.2
  simp [same, hextras]

/-- Of two texts that carry the same transaction both decode or none, to one transaction with
one line. -/
theorem decode_restated {text text' : Bytes} {members members' : List (String × Tree)}
    (h : Document text (.object members)) (h' : Document text' (.object members'))
    (hsame : Restate members members') :
    ((∃ tx, decoder.decode text = .ok tx) ↔ ∃ tx, decoder.decode text' = .ok tx) ∧
    ∀ tx tx', decoder.decode text = .ok tx → decoder.decode text' = .ok tx' →
      tx = tx' ∧ tx.same tx' = true ∧ tx.line = tx'.line := by
  have hdecode : ∀ tx, decoder.decode text = .ok tx ↔ decoder.decode text' = .ok tx := by
    intro tx
    rw [decode_iff_makes h hsame.once, decode_iff_makes h' hsame.once']
    exact ⟨fun hmakes => hmakes.restate hsame, fun hmakes => hmakes.restate hsame.symm⟩
  refine ⟨exists_congr hdecode, fun tx tx' htx htx' => ?_⟩
  have hboth := (hdecode tx).mp htx
  rw [htx'] at hboth
  cases hboth
  exact ⟨rfl, tx.same_self, rfl⟩

/-- A hexadecimal nonce and a number, decimal and hexadecimal digits of an amount, a null and
nothing, and members the other way round, also inside an extra. -/
theorem decode_restated_encodings :
    let ten : Quantity := ⟨10, by decide⟩
    let first : List (String × Json) :=
      [("from", .string "a"), ("to", .null), ("nonce", .string "0x0A"), ("value", .string "16"),
       ("x", .object [("p", .bool true), ("q", .null)])]
    let second : List (String × Json) :=
      [("x", .object [("q", .null), ("p", .bool true)]), ("value", .string "0X0010"),
       ("nonce", ten.toJson), ("from", .string "a")]
    ∃ tx tx', decoder.decode (Json.object first).render = .ok tx ∧
      decoder.decode (ofString " " ++ (Json.object second).render) = .ok tx' ∧
      tx.line = tx'.line := by
  intro ten first second
  have hfirst : Document (Json.object first).render (.object (treeMembers first)) :=
    document_render blank_nil (.object first)
  have hsecond : Document (ofString " " ++ (Json.object second).render)
      (.object (treeMembers second)) :=
    document_render (List.forall_mem_singleton.mpr (by decide)) (.object second)
  have hnonce : Field.nonce.Encodes (Json.string "0x0A").tree 10 := by
    refine .hex ⟨byte 'x', [byte '0', byte 'A'], rfl, .inl rfl, by simp, ?_⟩
    exact (inBase_iff (by decide)).mpr rfl
  have hnonce' : Field.nonce.Encodes ten.toJson.tree 10 := ten.encodes_toJson
  have hvalue : Field.value.Encodes (Json.string "16").tree 16 :=
    .decimal (by decide) ((inBase_iff (by decide)).mpr rfl)
  have hvalue' : Field.value.Encodes (Json.string "0X0010").tree 16 := by
    refine .hex ⟨byte 'X', [byte '0', byte '0', byte '1', byte '0'], rfl, .inr rfl, by simp, ?_⟩
    exact (inBase_iff (by decide)).mpr rfl
  have hextra : Reordered (Json.object [("p", .bool true), ("q", .null)]).tree
      (Json.object [("q", .null), ("p", .bool true)]).tree := by
    refine .object (by decide) (by decide) (fun name => ?_) fun name tree tree' htree htree' => ?_
    · simp only [treeMembers, lookup_cons_eq]
      split_ifs <;> rfl
    · simp only [treeMembers, lookup_cons_eq] at htree htree'
      split_ifs at htree htree' with hp hq hq
      · exact absurd (hp.symm.trans hq) (by decide)
      · cases htree
        cases htree'
        exact .bool true
      · cases htree
        cases htree'
        exact .null
      · cases htree
  have hsame : Restate (treeMembers first) (treeMembers second) := by
    refine ⟨by decide, by decide, fun name => ?_⟩
    simp only [first, second, treeMembers, lookup_cons_eq]
    by_cases hfrom : name = "from"
    · subst hfrom
      exact .reordered _ (.string "a")
    by_cases hto : name = "to"
    · subst hto
      exact .dropped .recipient ⟨by decide, by decide⟩
    by_cases hcount : name = "nonce"
    · subst hcount
      exact .encoded .nonce hnonce hnonce'
    by_cases hamount : name = "value"
    · subst hamount
      exact .encoded .value hvalue hvalue'
    by_cases hx : name = "x"
    · subst hx
      exact .reordered _ hextra
    · simp only [hfrom, hto, hcount, hamount, hx, if_false]
      exact .lacking name
  obtain ⟨hdecodes, hlines⟩ := decode_restated hfirst hsecond hsame
  obtain ⟨tx, htx⟩ : ∃ tx, decoder.decode (Json.object first).render = .ok tx := ⟨_, rfl⟩
  obtain ⟨tx', htx'⟩ := hdecodes.mp ⟨tx, htx⟩
  exact ⟨tx, tx', htx, htx', (hlines tx tx' htx htx').2.2⟩

end Transaction

end ChainArchive
