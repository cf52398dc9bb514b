import Mathlib.Data.List.Forall2
import ChainArchive.Proofs.Json.Carrying
import ChainArchive.Proofs.Json.Completeness
import ChainArchive.Proofs.Json.Views

namespace ChainArchive.Json

open Bytes

/-! Decoders that make the same of every spelling of a tree. -/

namespace Decoder

def Makes (decoder : Decoder α) (budget : Nat) (tree : Tree) (a : α) : Prop :=
  decoder.Yields View.tree budget tree a

def Means (decoder : Decoder α) (meaning : Nat → Tree → α → Prop) : Prop :=
  decoder.MeansIn View.tree meaning

def Uniform (decoder : Decoder α) : Prop := decoder.Follows View.tree

variable {decoder : Decoder α} {meaning : Nat → Tree → α → Prop}

theorem Means.makes_iff (h : decoder.Means meaning) {budget : Nat} {tree : Tree} {a : α} :
    decoder.Makes budget tree a ↔ meaning budget tree a := h.yields_iff

theorem Means.uniform (h : decoder.Means meaning) : decoder.Uniform := h.follows

theorem Means.decode_iff (h : decoder.Means meaning) {text : Bytes} {tree : Tree}
    (hdocument : Document text tree) {a : α} :
    decoder.decode text = .ok a ↔ meaning maxDepth tree a := by
  obtain ⟨gap, inner, behind, rfl, hgap, hspells, hbehind⟩ := hdocument
  exact readWhole_iff
    (fun rest => @h (gap ++ inner) behind tree ⟨gap, inner, rfl, hgap, hspells⟩
      (endsNumber_blank hbehind) maxDepth a rest) hbehind

/-! Decoders made of others. -/

theorem Faithful.means (hfaithful : decoder.Faithful) (hcomplete : decoder.Complete) :
    decoder.Means decoder.Reads := by
  intro text rest tree hbegins hrest budget a behind
  constructor
  · intro hread
    obtain ⟨value, hvalue, ha⟩ := hfaithful hread
    obtain ⟨htree, rfl⟩ := Begins.read?_eq hbegins hrest hvalue
    exact ⟨rfl, value, htree, ha⟩
  · rintro ⟨rfl, value, htree, ha⟩
    obtain ⟨gap, inner, rfl, hgap, hspells⟩ := hbegins
    refine hcomplete ?_ ha
    rw [readValue_gap hgap]
    apply Outcome.toOption_eq_some.mp
    rw [hspells.toOption_readValue budget (ends_of_endsNumber tree hrest), htree,
      Option.map_some]

theorem Uniform.map (h : decoder.Uniform) (f : α → β) : (decoder.map f).Uniform :=
  (MeansIn.map h f).follows

theorem map_makes_iff {f : α → β} {budget : Nat} {tree : Tree} {b : β} :
    (decoder.map f).Makes budget tree b ↔ ∃ a, decoder.Makes budget tree a ∧ f a = b :=
  map_yields_iff

theorem Means.option (h : decoder.Means meaning) :
    (Decoder.option decoder).Means fun budget tree found =>
      tree = .null ∧ found = none ∨
        tree ≠ .null ∧ ∃ a, found = some a ∧ meaning budget tree a :=
  MeansIn.option h

end Decoder

theorem Decoder.Uniform.foldElements {decoder : Decoder α} (h : decoder.Uniform) {first : Bool}
    {text rest : Bytes} {trees : List Tree} (hspells : SpellsItems first text trees rest)
    {fuel : Nat} (hfuel : text.length < fuel) {budget : Nat} {done found : List α}
    {behind : Bytes} :
    Json.foldElements (decoder.pushElement budget) fuel first done text = .ok (found, behind) ↔
      behind = byte ']' :: rest ∧
        ∃ items, List.Forall₂ (decoder.Makes budget) trees items ∧
          found = items.reverse ++ done := by
  induction trees generalizing first text done fuel with
  | nil =>
      obtain ⟨fuel, rfl⟩ := Nat.exists_eq_add_one.mpr (Nat.zero_lt_of_lt hfuel)
      cases hspells with
      | close hgap =>
          simp [Json.foldElements, nextElement_close hgap, orStop, eq_comm, and_comm]
  | cons tree trees ih =>
      obtain ⟨fuel, rfl⟩ := Nat.exists_eq_add_one.mpr (Nat.zero_lt_of_lt hfuel)
      cases hspells with
      | item lead hvalue more =>
          have hlead := lead.length_le
          have hshorter := hvalue.length_lt
          have hread := @h _ _ _ ⟨[], _, rfl, blank_nil, hvalue⟩ more.endsNumber budget
          rw [Json.foldElements, nextElement_lead lead hvalue]
          simp only [orStop, Outcome.ok_bind]
          rw [Outcome.bind_eq_ok]
          constructor
          · rintro ⟨⟨next, left⟩, hstep, hfold⟩
            obtain ⟨⟨item, after⟩, hitem, hstep⟩ := Outcome.bind_eq_ok.mp hstep
            cases hstep
            obtain ⟨rfl, hmakes⟩ := hread.mp (orStop_eq_ok.mp hitem)
            obtain ⟨hrest, items, hitems, rfl⟩ := (ih more (by omega)).mp hfold
            exact ⟨hrest, item :: items, .cons hmakes hitems, by simp⟩
          · rintro ⟨hrest, _, hitems, rfl⟩
            cases hitems with
            | @cons _ item _ items hmakes hitems =>
                have hstep : decoder.pushElement budget done _ = .ok (item :: done, _) :=
                  Outcome.bind_eq_ok.mpr
                    ⟨_, orStop_eq_ok.mpr (hread.mpr ⟨rfl, hmakes⟩), rfl⟩
                exact ⟨_, hstep, (ih more (by omega)).mpr ⟨hrest, items, hitems, by simp⟩⟩

theorem Spells.head_cases {text rest : Bytes} {tree : Tree} (h : Spells text tree rest)
    (hrest : EndsNumber rest) :
    (∃ inner items, tree = .array items ∧ text = byte '[' :: inner ∧
      SpellsItems true inner items rest) ∨
    (∃ inner members, tree = .object members ∧ text = byte '\x7b' :: inner ∧
      SpellsMembers true inner members rest) ∨
    ((∀ head, readHead text = .ok head → ∃ value, head = .scalar value rest) ∧
      (∀ items, tree ≠ .array items) ∧ ∀ members, tree ≠ .object members) := by
  have hscalar : ∀ {text : Bytes} {found : Option Scalar},
      (readHead text).toOption = found.map (Head.scalar · rest) →
        ∀ head, readHead text = .ok head → ∃ value, head = .scalar value rest := by
    intro text found hfound head hhead
    rw [hhead, Outcome.toOption_ok] at hfound
    obtain ⟨value, -, rfl⟩ := Option.map_eq_some_iff.mp hfound.symm
    exact ⟨value, rfl⟩
  cases h with
  | array h => exact .inl ⟨_, _, rfl, rfl, h⟩
  | object h => exact .inr (.inl ⟨_, _, rfl, rfl, h⟩)
  | null =>
      have hhead := readHead_null rest
      exact .inr (.inr ⟨@hscalar _ (some .null) (congrArg Except.toOption hhead), by simp, by simp⟩)
  | bool b =>
      have hword : ofString (toString b) = render (.bool b) := by cases b <;> rfl
      have hhead := readHead_bool b rest
      rw [hword]
      exact .inr (.inr ⟨@hscalar _ (some (.bool b)) (congrArg Except.toOption hhead), by simp,
        by simp⟩)
  | number n =>
      have hhead := toOption_readHead_numeral n hrest
      exact .inr (.inr ⟨@hscalar _ (n.number?.map Scalar.number)
        (by rw [hhead, Option.map_map]; rfl), by simp, by simp⟩)
  | @string inner rest s h =>
      have hhead := readHead_quote h.readString_eq
      exact .inr (.inr ⟨@hscalar _ (some (.string s)) (congrArg Except.toOption hhead), by simp,
        by simp⟩)

namespace Decoder

theorem Uniform.list {decoder : Decoder α} (h : decoder.Uniform) :
    (Decoder.list decoder).Means fun budget tree items =>
      ∃ trees smaller, tree = .array trees ∧ budget = smaller + 1 ∧
        List.Forall₂ (decoder.Makes smaller) trees items := by
  rintro text rest tree ⟨gap, inner, rfl, hgap, hspells⟩ hrest budget found behind
  unfold Decoder.list
  simp only [readHead_gap hgap]
  rcases hspells.head_cases hrest with ⟨text, trees, rfl, rfl, hitems⟩ |
    ⟨text, members, rfl, rfl, -⟩ | ⟨hscalar, harray, -⟩
  · rw [readHead_array, Outcome.ok_bind]
    cases budget with
    | zero => simp [opened]
    | succ smaller =>
        have hfold := fun found behind => @Decoder.Uniform.foldElements _ decoder h _ _ _ _ hitems _
          (Nat.lt_succ_self _) smaller [] found behind
        simp only [opened, readElements]
        constructor
        · intro hread
          obtain ⟨⟨reversed, left⟩, hreversed, hpair⟩ := Outcome.bind_eq_ok.mp hread
          cases hpair
          obtain ⟨inside, hinside, hclose⟩ := arrayResult_eq_ok hreversed
          obtain ⟨rfl, made, hmade, rfl⟩ := (hfold _ _).mp hinside
          rw [closeArray_bracket] at hclose
          cases hclose
          exact ⟨rfl, trees, smaller, rfl, rfl, by simpa using hmade⟩
        · rintro ⟨rfl, others, less, hothers, hless, hmade⟩
          cases hothers
          cases hless
          rw [(hfold (found.reverse ++ []) _).mpr ⟨rfl, found, hmade, rfl⟩]
          simp [arrayResult, closeArray_bracket]
  · rw [readHead_object, Outcome.ok_bind]
    simp
  · constructor
    · intro hread
      obtain ⟨head, hhead, hread⟩ := Outcome.bind_eq_ok.mp hread
      obtain ⟨value, rfl⟩ := hscalar head hhead
      cases hread
    · rintro ⟨-, trees, -, rfl, -⟩
      exact absurd rfl (harray trees)

end Decoder

/-! Scalars. -/

def Tree.scalar? : Tree → Option Scalar
  | .null => some .null
  | .bool b => some (.bool b)
  | .number n => n.number?.map .number
  | .string s => some (.string s)
  | .array _ => none
  | .object _ => none

theorem Tree.scalar?_eq (tree : Tree) (budget : Nat) :
    (tree.read? budget).bind Scalar.ofJson? = tree.scalar? := by
  cases tree with
  | null | bool b | string s =>
      rw [Tree.read?]
      rfl
  | number n =>
      rw [Tree.read?, Tree.scalar?]
      cases n.number? <;> rfl
  | array items =>
      cases budget with
      | zero => rfl
      | succ smaller =>
          rw [Tree.read?, Tree.scalar?]
          cases items.mapM (Tree.read? smaller) <;> rfl
  | object members =>
      cases budget with
      | zero => rfl
      | succ smaller =>
          rw [Tree.read?, Tree.scalar?]
          cases members.mapM fun member =>
            (Tree.read? smaller member.2).map fun value => (member.1, value) <;> rfl

namespace Decoder

variable {opens : Bool} {expected : String} {accept : Scalar → Except Mismatch α}

theorem scalar_means : (scalar opens expected accept).Means
    fun _ tree a => ∃ found, tree.scalar? = some found ∧ accept found = .ok a := by
  intro text rest tree hbegins hrest budget a behind
  rw [(Faithful.means (scalar_faithful _ _ _) (scalar_complete _ _ _)) hbegins hrest]
  apply and_congr_right
  intro _
  unfold Reads scalar
  simp only [← tree.scalar?_eq budget]
  cases tree.read? budget with
  | none => simp
  | some value => cases hfound : Scalar.ofJson? value <;> simp [hfound]

theorem text_uniform : Decoder.text.Uniform := scalar_means.uniform

theorem signedWord_uniform : signedWord.Uniform := scalar_means.uniform

theorem text_makes_iff {budget : Nat} {tree : Tree} {s : String} :
    Decoder.text.Makes budget tree s ↔ tree = .string s := by
  unfold Decoder.text
  rw [scalar_means.makes_iff]
  cases tree with
  | number n => cases hn : n.number? <;> simp [Tree.scalar?, hn]
  | string t => simp [Tree.scalar?]
  | null | bool b | array items | object members => simp [Tree.scalar?]

theorem signedWord_makes_iff {budget : Nat} {tree : Tree} {z : Int} :
    Decoder.signedWord.Makes budget tree z ↔
      ∃ n, tree = .number n ∧ n.Fits z ∧ z < 9223372036854775808 := by
  unfold Decoder.signedWord
  rw [scalar_means.makes_iff]
  cases tree with
  | number n =>
      simp only [Tree.scalar?, Tree.number.injEq, exists_eq_left']
      constructor
      · intro hmakes
        obtain ⟨found, hfound, hz⟩ := hmakes
        obtain ⟨x, hx, rfl⟩ := Option.map_eq_some_iff.mp hfound
        cases x with
        | float negative magnitude => cases hz
        | integer word =>
            simp only at hz
            split at hz
            · rename_i hsmall
              cases hz
              exact ⟨Numeral.fits_of_number? hx, hsmall⟩
            · cases hz
      · intro hfits
        obtain ⟨hfits, hsmall⟩ := hfits
        obtain ⟨word, hword, rfl⟩ := hfits.number?_eq
        exact ⟨_, by rw [hword, Option.map_some], by simp only [hsmall, if_true]⟩
  | null | bool b | string s | array items | object members => simp [Tree.scalar?]

end Decoder

end ChainArchive.Json
