import ChainArchive.Proofs.Json.Scalars

namespace ChainArchive.Json

open Bytes

theorem render_head {value : Json} (h : Integral value) :
    ∃ b rest, render value = b :: rest ∧ isSpace b = false ∧ b ≠ byte ']' := by
  cases h with
  | null => exact ⟨byte 'n', ofString "ull", by decide, by decide, by decide⟩
  | bool b =>
      cases b with
      | true => exact ⟨byte 't', ofString "rue", by decide, by decide, by decide⟩
      | false => exact ⟨byte 'f', ofString "alse", by decide, by decide, by decide⟩
  | number n =>
      obtain ⟨b, rest, hwritten, hdigit | rfl⟩ := render_integer_head n
      · exact ⟨b, rest, hwritten, isSpace_of_isDigit hdigit, ne_of_isDigit hdigit (by decide)⟩
      · exact ⟨byte '-', rest, hwritten, by decide, by decide⟩
  | string s => exact ⟨byte '"', _, rfl, by decide, by decide⟩
  | array inner => exact ⟨byte '[', _, rfl, by decide, by decide⟩
  | object inner => exact ⟨byte '\x7b', _, rfl, by decide, by decide⟩

/-! Written elements. -/

theorem nextElement_first {item : Json} (h : Integral item) (rest : Bytes) :
    nextElement true (render item ++ rest) = .ok (true, render item ++ rest) := by
  obtain ⟨b, written, hwritten, hspace, hb⟩ := render_head h
  rw [hwritten, List.cons_append, nextElement, skipSpace_cons hspace]
  simp only [if_neg hb, if_true]

theorem nextElement_comma {item : Json} (h : Integral item) (rest : Bytes) :
    nextElement false (byte ',' :: (render item ++ rest)) = .ok (true, render item ++ rest) := by
  have hcomma : byte ',' ≠ byte ']' := by decide
  obtain ⟨b, written, hwritten, hspace, hb⟩ := render_head h
  rw [hwritten, List.cons_append, nextElement, skipSpace_cons (by decide)]
  simp only [if_neg hcomma, Bool.false_eq_true, if_false, if_pos, skipSpace_cons hspace,
    if_neg hb]

theorem nextElement_end (first : Bool) (rest : Bytes) :
    nextElement first (byte ']' :: rest) = .ok (false, byte ']' :: rest) := by
  rw [nextElement, skipSpace_cons (by decide)]
  simp only [if_pos]

theorem closeArray_bracket (rest : Bytes) : closeArray (byte ']' :: rest) = .ok rest := by
  rw [closeArray, skipSpace_cons (by decide)]
  simp only [if_pos]

theorem endsNumber_comma (rest : Bytes) : EndsNumber (byte ',' :: rest) :=
  endsNumber_cons (by decide)

theorem endsNumber_bracket (rest : Bytes) : EndsNumber (byte ']' :: rest) :=
  endsNumber_cons (by decide)

theorem endsNumber_brace (rest : Bytes) : EndsNumber (byte '\x7d' :: rest) :=
  endsNumber_cons (by decide)

theorem endsNumber_more (parts : List Bytes) {rest : Bytes} (h : EndsNumber rest) :
    EndsNumber (parts.flatMap (byte ',' :: ·) ++ rest) := by
  cases parts with
  | nil => exact h
  | cons part parts => exact endsNumber_comma _

/-- A reader that gets back a written value and what follows it. -/
def ReadsBack (read : Bytes → Except Fault (α × Bytes)) (value : Json) (a : α) : Prop :=
  ∀ rest, EndsNumber rest → read (render value ++ rest) = .ok (a, rest)

theorem foldElements_item {read : Bytes → Except Fault (Json × Bytes)} {item : Json}
    (hread : ReadsBack read item item) {first : Bool} {text rest : Bytes}
    (hnext : nextElement first text = .ok (true, render item ++ rest)) (hrest : EndsNumber rest)
    (fuel : Nat) (done : List Json) :
    foldElements (addElement read) (fuel + 1) first done text =
      foldElements (addElement read) fuel false (item :: done) rest := by
  simp only [foldElements, hnext, orStop, Outcome.ok_bind, addElement, hread rest hrest,
    Outcome.pure_eq_ok]

theorem foldElements_end {read : Bytes → Except Fault (Json × Bytes)} (fuel : Nat)
    (first : Bool) (done : List Json) (rest : Bytes) :
    foldElements (addElement read) (fuel + 1) first done (byte ']' :: rest) =
      .ok (done, byte ']' :: rest) := by
  simp only [foldElements, nextElement_end, orStop, Outcome.ok_bind]

theorem foldElements_more {read : Bytes → Except Fault (Json × Bytes)} {items : List Json}
    (hread : ∀ item ∈ items, ReadsBack read item item)
    (hintegral : ∀ item ∈ items, Integral item) (done : List Json) (rest : Bytes) {fuel : Nat}
    (hfuel : items.length < fuel) :
    foldElements (addElement read) fuel false done
        ((items.map render).flatMap (byte ',' :: ·) ++ byte ']' :: rest) =
      .ok (items.reverse ++ done, byte ']' :: rest) := by
  induction items generalizing done fuel with
  | nil =>
      cases fuel with
      | zero => simp at hfuel
      | succ fuel => exact foldElements_end fuel false done rest
  | cons item items ih =>
      cases fuel with
      | zero => simp at hfuel
      | succ fuel =>
          have hmore := ih (fun other hother => hread other (by simp [hother]))
            (fun other hother => hintegral other (by simp [hother])) (item :: done)
            (by simpa using hfuel : items.length < fuel)
          rw [List.map_cons, List.flatMap_cons, List.append_assoc, List.cons_append,
            foldElements_item (hread item (by simp))
              (nextElement_comma (hintegral item (by simp)) _)
              (endsNumber_more _ (endsNumber_bracket rest)), hmore]
          simp

theorem foldElements_render {read : Bytes → Except Fault (Json × Bytes)} {items : List Json}
    (hread : ∀ item ∈ items, ReadsBack read item item)
    (hintegral : ∀ item ∈ items, Integral item) (rest : Bytes) {fuel : Nat}
    (hfuel : items.length < fuel) :
    foldElements (addElement read) fuel true []
        (joinComma (items.map render) ++ byte ']' :: rest) =
      .ok (items.reverse, byte ']' :: rest) := by
  cases fuel with
  | zero => simp at hfuel
  | succ fuel =>
      cases items with
      | nil => exact foldElements_end fuel true [] rest
      | cons item items =>
          have hmore := foldElements_more (fun other hother => hread other (by simp [hother]))
            (fun other hother => hintegral other (by simp [hother])) [item] rest
            (by simpa using hfuel : items.length < fuel)
          rw [List.map_cons, joinComma_cons, List.append_assoc,
            foldElements_item (hread item (by simp))
              (nextElement_first (hintegral item (by simp)) _)
              (endsNumber_more _ (endsNumber_bracket rest)), hmore, List.reverse_cons]

theorem length_le_elements {items : List Json} (h : ∀ item ∈ items, Integral item)
    (rest : Bytes) :
    items.length < (joinComma (items.map render) ++ byte ']' :: rest).length + 1 := by
  have hparts : ∀ part ∈ items.map render, part ≠ [] := by
    intro part hpart
    obtain ⟨item, hitem, rfl⟩ := List.mem_map.mp hpart
    obtain ⟨b, written, hwritten, _⟩ := render_head (h item hitem)
    simp [hwritten]
  have hlength := length_le_joinComma hparts
  simp only [List.length_map, List.length_append] at hlength ⊢
  omega

theorem readElements_render {read : Bytes → Except Fault (Json × Bytes)} {items : List Json}
    (hread : ∀ item ∈ items, ReadsBack read item item)
    (hintegral : ∀ item ∈ items, Integral item) (rest : Bytes) :
    readElements (addElement read) []
        (joinComma (items.map render) ++ byte ']' :: rest) = .ok (items.reverse, rest) := by
  rw [readElements,
    foldElements_render hread hintegral rest (length_le_elements hintegral rest)]
  simp only [arrayResult, closeArray_bracket, Outcome.map_ok]

/-! Written members. -/

theorem renderMember_append (member : String × Json) (rest : Bytes) :
    renderMember member ++ rest =
      byte '"' :: ((ofString member.1).flatMap escapeByte ++
        byte '"' :: byte ':' :: (render member.2 ++ rest)) := by
  simp [renderMember, renderKey, renderString]

theorem nextKey_first (member : String × Json) (rest : Bytes) :
    nextKey true (renderMember member ++ rest) =
      .ok (some member.1, byte ':' :: (render member.2 ++ rest)) := by
  have hbrace : byte '"' ≠ byte '\x7d' := by decide
  rw [renderMember_append, nextKey, skipSpace_cons (by decide)]
  simp only [if_neg hbrace, if_pos, readString_render, Outcome.ok_bind, Outcome.pure_eq_ok]

theorem nextKey_comma (member : String × Json) (rest : Bytes) :
    nextKey false (byte ',' :: (renderMember member ++ rest)) =
      .ok (some member.1, byte ':' :: (render member.2 ++ rest)) := by
  have hbrace : byte ',' ≠ byte '\x7d' := by decide
  rw [renderMember_append, nextKey, skipSpace_cons (by decide)]
  simp only [if_neg hbrace, Bool.false_eq_true, if_false, if_pos,
    skipSpace_cons (by decide : isSpace (byte '"') = false), readString_render,
    Outcome.ok_bind, Outcome.pure_eq_ok]

theorem nextKey_end (first : Bool) (rest : Bytes) :
    nextKey first (byte '\x7d' :: rest) = .ok (none, byte '\x7d' :: rest) := by
  rw [nextKey, skipSpace_cons (by decide)]
  simp only [if_pos]

theorem readColon_colon (rest : Bytes) : readColon (byte ':' :: rest) = .ok rest := by
  rw [readColon, skipSpace_cons (by decide)]
  simp only [if_pos]

theorem closeObject_brace (rest : Bytes) : closeObject (byte '\x7d' :: rest) = .ok rest := by
  rw [closeObject, skipSpace_cons (by decide)]
  simp only [if_pos]

inductive Takes (step : σ → String → Bytes → Except Stop (σ × Bytes)) :
    σ → List (String × Json) → σ → Prop where
  | nil (state : σ) : Takes step state [] state
  | cons {state next last : σ} {member : String × Json} {rest : List (String × Json)}
      (taken : ∀ text, EndsNumber text →
        step state member.1 (byte ':' :: (render member.2 ++ text)) = .ok (next, text))
      (more : Takes step next rest last) : Takes step state (member :: rest) last

theorem Takes.append {step : σ → String → Bytes → Except Stop (σ × Bytes)}
    {state middle last : σ} {members others : List (String × Json)}
    (h : Takes step state members middle) (hothers : Takes step middle others last) :
    Takes step state (members ++ others) last := by
  induction h with
  | nil state => exact hothers
  | cons taken more ih => exact .cons taken (ih hothers)

theorem foldMembers_more {step : σ → String → Bytes → Except Stop (σ × Bytes)}
    {state last : σ} {members : List (String × Json)} (h : Takes step state members last)
    (rest : Bytes) {fuel : Nat} (hfuel : members.length < fuel) :
    foldMembers step fuel false state
        ((members.map renderMember).flatMap (byte ',' :: ·) ++ byte '\x7d' :: rest) =
      .ok (last, byte '\x7d' :: rest) := by
  induction h generalizing fuel with
  | nil state =>
      cases fuel with
      | zero => simp at hfuel
      | succ fuel => simp [foldMembers, nextKey_end, orStop]
  | @cons state next last member members taken more ih =>
      cases fuel with
      | zero => simp at hfuel
      | succ fuel =>
          have hmember := taken _ (endsNumber_more (members.map renderMember)
            (endsNumber_brace rest))
          have hmore := ih (by simpa using hfuel : members.length < fuel)
          simp only [List.map_cons, List.flatMap_cons, List.append_assoc, List.cons_append]
          simp only [foldMembers, nextKey_comma, orStop, Outcome.ok_bind, hmember, hmore]

theorem foldMembers_render {step : σ → String → Bytes → Except Stop (σ × Bytes)}
    {state last : σ} {members : List (String × Json)} (h : Takes step state members last)
    (rest : Bytes) {fuel : Nat} (hfuel : members.length < fuel) :
    foldMembers step fuel true state
        (joinComma (members.map renderMember) ++ byte '\x7d' :: rest) =
      .ok (last, byte '\x7d' :: rest) := by
  cases fuel with
  | zero => simp at hfuel
  | succ fuel =>
      cases h with
      | nil => simp [joinComma, foldMembers, nextKey_end, orStop]
      | @cons _ next _ member members taken more =>
          have hmember := taken _ (endsNumber_more (members.map renderMember)
            (endsNumber_brace rest))
          have hmore := foldMembers_more more rest
            (by simpa using hfuel : members.length < fuel)
          rw [List.map_cons, joinComma_cons, List.append_assoc]
          simp only [foldMembers, nextKey_first, orStop, Outcome.ok_bind, hmember, hmore]

theorem length_le_members (members : List (String × Json)) (rest : Bytes) :
    members.length <
      (joinComma (members.map renderMember) ++ byte '\x7d' :: rest).length + 1 := by
  have hparts : ∀ part ∈ members.map renderMember, part ≠ [] := by
    intro part hpart
    obtain ⟨member, _, rfl⟩ := List.mem_map.mp hpart
    simp [renderMember, renderKey, renderString]
  have hlength := length_le_joinComma hparts
  simp only [List.length_map, List.length_append] at hlength ⊢
  omega

theorem readMembers_render {step : σ → String → Bytes → Except Stop (σ × Bytes)}
    {start last : σ} {members : List (String × Json)} (h : Takes step start members last)
    (rest : Bytes) :
    readMembers step start (joinComma (members.map renderMember) ++ byte '\x7d' :: rest) =
      .ok (last, rest) := by
  rw [readMembers, foldMembers_render h rest (length_le_members members rest)]
  simp only [objectResult, closeObject_brace, Outcome.map_ok]

/-! Any written value whose numbers are integers. -/

theorem takes_addMember {read : Bytes → Except Fault (Json × Bytes)}
    {members : List (String × Json)}
    (hread : ∀ member ∈ members, ReadsBack read member.2 member.2)
    (done : List (String × Json)) :
    Takes (addMember read) done members (members.reverse ++ done) := by
  induction members generalizing done with
  | nil => exact .nil done
  | cons member rest ih =>
      have hrest := ih (fun other hother => hread other (by simp [hother])) (member :: done)
      rw [List.reverse_cons, List.append_assoc, List.singleton_append]
      refine .cons (fun text htext => ?_) hrest
      have hmember := hread member (by simp) text htext
      simp [addMember, readColon_colon, orStop, hmember]

theorem readValue_scalar {budget : Nat} {text rest : Bytes} {value : Scalar}
    (h : readHead text = .ok (.scalar value rest)) :
    readValue budget text = .ok (value.toJson, rest) := by
  cases budget <;> simp [readValue, h]

theorem readValue_render {budget : Nat} {value : Json} (hwithin : Within budget value)
    (hintegral : Integral value) : ReadsBack (readValue budget) value value := by
  -- The reader takes one from the budget where a container opens, and so does `Within`: the
  -- induction on it gives the parts with the budget that is left for them.
  intro rest hrest
  induction hwithin generalizing rest with
  | null => exact readValue_scalar (readHead_null rest)
  | bool b => exact readValue_scalar (readHead_bool b rest)
  | number n =>
      cases hintegral with
      | number n => exact readValue_scalar (readHead_integer n hrest)
  | string s => exact readValue_scalar (readHead_string s rest)
  | @array budget items inner ih =>
      cases hintegral with
      | array hitems =>
          have hread : ∀ item ∈ items, ReadsBack (readValue budget) item item :=
            fun item hitem => ih item hitem (hitems item hitem)
          have htext : render (.array items) ++ rest =
              byte '[' :: (joinComma (items.map render) ++ byte ']' :: rest) := by
            simp [render_array]
          rw [htext, readValue, readHead_array]
          simp [readElements_render hread hitems]
  | @object budget members inner ih =>
      cases hintegral with
      | object hmembers =>
          have hread : ∀ member ∈ members, ReadsBack (readValue budget) member.2 member.2 :=
            fun member hmember => ih member hmember (hmembers member hmember)
          have htext : render (.object members) ++ rest =
              byte '\x7b' :: (joinComma (members.map renderMember) ++ byte '\x7d' :: rest) := by
            simp [render_object]
          rw [htext, readValue, readHead_object]
          simp [readMembers_render (takes_addMember hread []) rest]

end ChainArchive.Json
