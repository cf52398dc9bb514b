import ChainArchive.Proofs.Json.Grammar

namespace ChainArchive.Json

/-! Numbers: readers take exactly a numeral, and what they make of it is its own. -/

theorem digits_nil : Digits [] := List.forall_mem_nil _

theorem Digits.append {digits others : Bytes} (h : Digits digits) (hothers : Digits others) :
    Digits (digits ++ others) := by
  intro b hb
  rcases List.mem_append.mp hb with hmem | hmem
  · exact h b hmem
  · exact hothers b hmem

def NoDigit (tail : Bytes) : Prop := ∀ b ∈ tail.head?, isDigit b = false

theorem EndsNumber.noDigit {rest : Bytes} (h : EndsNumber rest) : NoDigit rest :=
  fun b hb => (h b hb).1

theorem noDigit_cons {b : UInt8} (h : isDigit b = false) (rest : Bytes) :
    NoDigit (b :: rest) := by
  simpa [NoDigit] using h

theorem isDigit_of_isExponentLetter {b : UInt8} (h : isExponentLetter b = true) :
    isDigit b = false ∧ b ≠ byte '.' := by
  simp only [isExponentLetter, Bool.or_eq_true, beq_iff_eq] at h
  rcases h with rfl | rfl <;> decide

theorem Scale.noDigit {scale rest : Bytes} (h : Scale scale) (hrest : EndsNumber rest) :
    NoDigit (scale ++ rest) := by
  cases h with
  | none => exact hrest.noDigit
  | power hletter => exact noDigit_cons (isDigit_of_isExponentLetter hletter).1 _

theorem Places.noDigit {places rest : Bytes} (h : Places places) (hrest : EndsNumber rest) :
    NoDigit (places ++ rest) := by
  cases h with
  | scale h => exact h.noDigit hrest
  | fraction => exact noDigit_cons (by decide) _

/-! Runs of digits. -/

theorem takeDigits_append (value count : Nat) {digits : Bytes} (h : Digits digits) :
    ∃ total taken left, Digits left ∧ (left = [] → total = continued value digits) ∧
      ∀ tail, NoDigit tail →
        takeDigits value count (digits ++ tail) = (total, taken, left ++ tail) := by
  induction digits generalizing value count with
  | nil =>
      refine ⟨value, count, [], digits_nil, fun _ => rfl, fun tail htail => ?_⟩
      cases tail with
      | nil => rfl
      | cons b tail => simp [takeDigits, htail b rfl]
  | cons b digits ih =>
      by_cases hfits : isDigit b = true ∧ value * 10 + digitValue b < wordSize
      · obtain ⟨total, taken, left, hleft, htotal, htake⟩ :=
          ih (value * 10 + digitValue b) (count + 1) fun d hd => h d (by simp [hd])
        refine ⟨total, taken, left, hleft, htotal, fun tail htail => ?_⟩
        rw [List.cons_append, takeDigits, if_pos hfits, htake tail htail]
      · refine ⟨value, count, b :: digits, h, fun hnil => absurd hnil (List.cons_ne_nil b digits),
          fun tail _ => ?_⟩
        rw [List.cons_append, takeDigits, if_neg hfits]

theorem dropDigits_append {digits tail : Bytes} (h : Digits digits) (htail : NoDigit tail) :
    dropDigits (digits ++ tail) = tail := by
  induction digits with
  | nil =>
      cases tail with
      | nil => rfl
      | cons b tail => simp [dropDigits, htail b rfl]
  | cons b digits ih =>
      rw [List.cons_append, dropDigits, List.dropWhile_cons_of_pos (h b (by simp))]
      exact ih fun d hd => h d (by simp [hd])

theorem takeExponent_append (exponent : Nat) {digits : Bytes} (h : Digits digits) :
    ∃ result left, Digits left ∧ (result ≠ none → left = []) ∧ ∀ tail, NoDigit tail →
      takeExponent exponent (digits ++ tail) = (result, left ++ tail) := by
  induction digits generalizing exponent with
  | nil =>
      refine ⟨some exponent, [], digits_nil, fun _ => rfl, fun tail htail => ?_⟩
      cases tail with
      | nil => rfl
      | cons b tail => simp [takeExponent, htail b rfl]
  | cons b digits ih =>
      have hb := h b (by simp)
      have hdigits : Digits digits := fun d hd => h d (by simp [hd])
      by_cases hfits : exponent * 10 + digitValue b < 2147483648
      · obtain ⟨result, left, hleft, hnone, htake⟩ :=
          ih (exponent * 10 + digitValue b) hdigits
        refine ⟨result, left, hleft, hnone, fun tail htail => ?_⟩
        rw [List.cons_append, takeExponent, if_pos hb, if_pos hfits, htake tail htail]
      · refine ⟨none, digits, hdigits, fun hne => absurd rfl hne, fun tail _ => ?_⟩
        rw [List.cons_append, takeExponent, if_pos hb, if_neg hfits]

theorem takeDigits_sound {value count total taken : Nat} {text rest : Bytes}
    (h : takeDigits value count text = (total, taken, rest)) :
    ∃ digits, Digits digits ∧ text = digits ++ rest := by
  induction text generalizing value count with
  | nil =>
      cases h
      exact ⟨[], digits_nil, rfl⟩
  | cons b text ih =>
      rw [takeDigits] at h
      split at h
      · rename_i hfits
        obtain ⟨digits, hdigits, rfl⟩ := ih h
        exact ⟨b :: digits, List.forall_mem_cons.mpr ⟨hfits.1, hdigits⟩, rfl⟩
      · cases h
        exact ⟨[], digits_nil, rfl⟩

theorem takeExponent_sound {exponent : Nat} {result : Option Nat} {text rest : Bytes}
    (h : takeExponent exponent text = (result, rest)) :
    ∃ digits, Digits digits ∧ text = digits ++ rest := by
  induction text generalizing exponent with
  | nil =>
      cases h
      exact ⟨[], digits_nil, rfl⟩
  | cons b text ih =>
      rw [takeExponent] at h
      split at h
      · rename_i hb
        split at h
        · obtain ⟨digits, hdigits, rfl⟩ := ih h
          exact ⟨b :: digits, List.forall_mem_cons.mpr ⟨hb, hdigits⟩, rfl⟩
        · cases h
          exact ⟨[b], List.forall_mem_cons.mpr ⟨hb, digits_nil⟩, rfl⟩
      · cases h
        exact ⟨[], digits_nil, rfl⟩

theorem dropDigits_sound (text : Bytes) :
    ∃ digits, Digits digits ∧ text = digits ++ dropDigits text :=
  ⟨text.takeWhile isDigit, fun b hb => List.all_eq_true.mp List.all_takeWhile b hb,
    List.takeWhile_append_dropWhile.symm⟩

/-! Readers on a numeral. -/

/-- What comes of the text is settled, whatever follows that does not go on with a
number. -/
def Settles (read : Bytes → Except Fault (Number × Bytes)) (text : Bytes) : Prop :=
  ∃ found : Option Number, ∀ rest, EndsNumber rest →
    (read (text ++ rest)).toOption = found.map (·, rest)

theorem toOption_finishFloat (negative : Bool) (significand : Nat) (exponent : Int)
    (rest : Bytes) :
    (finishFloat negative significand exponent rest).toOption =
      ((Binary64.scale? significand exponent).map (Number.float negative)).map (·, rest) := by
  unfold finishFloat
  cases Binary64.scale? significand exponent <;> rfl

theorem readSign_append {sign : Bytes}
    (hsign : sign = [] ∨ sign = [byte '-'] ∨ sign = [byte '+']) :
    ∃ down, ∀ b tail, isDigit b = true → readSign (sign ++ b :: tail) = (down, b :: tail) := by
  rcases hsign with rfl | rfl | rfl
  · refine ⟨false, fun b tail hb => ?_⟩
    have hminus : b ≠ byte '-' := ne_of_isDigit hb (by decide)
    have hplus : b ≠ byte '+' := ne_of_isDigit hb (by decide)
    simp [readSign, hminus, hplus]
  · exact ⟨true, fun b tail _ => rfl⟩
  · exact ⟨false, fun b tail _ => rfl⟩

theorem readExponent_settles (negative : Bool) (significand : Nat) (exponent : Int)
    {sign digits : Bytes} (hsign : sign = [] ∨ sign = [byte '-'] ∨ sign = [byte '+'])
    (hne : digits ≠ []) (h : Digits digits) :
    Settles (readExponent negative significand exponent) (sign ++ digits) := by
  obtain ⟨b, more, rfl⟩ := List.exists_cons_of_ne_nil hne
  obtain ⟨hb, hmore⟩ := List.forall_mem_cons.mp h
  obtain ⟨down, hread⟩ := readSign_append hsign
  obtain ⟨result, left, hleft, hnone, htake⟩ := takeExponent_append (digitValue b) hmore
  have htext : ∀ rest, readSign (sign ++ b :: more ++ rest) = (down, b :: (more ++ rest)) := by
    intro rest
    rw [List.append_assoc, List.cons_append]
    exact hread b (more ++ rest) hb
  cases result with
  | some shift =>
      refine ⟨_, fun rest hrest => Eq.trans (congrArg Except.toOption ?_)
        (toOption_finishFloat negative significand
          (if down then exponent - shift else exponent + shift) rest)⟩
      rw [readExponent, htext]
      simp only [hb, if_true, htake rest hrest.noDigit, hnone (by simp), List.nil_append]
  | none =>
      by_cases hlarge : significand ≠ 0 ∧ ¬down = true
      · refine ⟨none, fun rest hrest => ?_⟩
        rw [readExponent, htext]
        simp only [hb, if_true, htake rest hrest.noDigit, if_pos hlarge]
        rfl
      · refine ⟨some (.float negative .zero), fun rest hrest => ?_⟩
        rw [readExponent, htext]
        simp only [hb, if_true, htake rest hrest.noDigit, if_neg hlarge,
          dropDigits_append hleft hrest.noDigit]
        rfl

theorem readScale_settles (negative : Bool) (significand : Nat) (exponent : Int)
    {scale : Bytes} (h : Scale scale) :
    Settles (readScale negative significand exponent) scale := by
  cases h with
  | none =>
      refine ⟨_, fun rest hrest => Eq.trans (congrArg Except.toOption ?_)
        (toOption_finishFloat negative significand exponent rest)⟩
      cases rest with
      | nil => rfl
      | cons b rest =>
          have hletter : isExponentLetter b = false := (hrest b rfl).2.2
          simp [readScale, hletter]
  | power hletter hsign hne h =>
      obtain ⟨found, hfound⟩ := readExponent_settles negative significand exponent hsign hne h
      refine ⟨found, fun rest hrest => ?_⟩
      rw [List.cons_append, readScale, if_pos hletter]
      exact hfound rest hrest

theorem readFraction_settles (negative : Bool) (significand : Nat) (exponent : Int)
    {digits scale : Bytes} (hne : digits ≠ []) (h : Digits digits) (hscale : Scale scale) :
    Settles (readFraction negative significand exponent) (digits ++ scale) := by
  obtain ⟨total, taken, left, hleft, -, htake⟩ := takeDigits_append significand 0 h
  obtain ⟨found, hfound⟩ := readScale_settles negative total (exponent - taken) hscale
  refine ⟨found, fun rest hrest => ?_⟩
  have hend := hscale.noDigit hrest
  have hlonger : (digits ++ (scale ++ rest)).length ≠ (scale ++ rest).length := by
    have hpositive := List.length_pos_iff.mpr hne
    rw [List.length_append]
    omega
  rw [List.append_assoc, readFraction]
  simp only [htake _ hend, dropDigits_append hleft hend, if_neg hlonger]
  exact hfound rest hrest

def readPlaces (negative : Bool) (significand excess : Nat) :
    Bytes → Except Fault (Number × Bytes)
  | [] =>
      if excess = 0 then .ok (wholeNumber negative significand, [])
      else finishFloat negative significand excess []
  | b :: rest =>
      if b = byte '.' then readFraction negative significand excess rest
      else if isExponentLetter b then readExponent negative significand excess rest
      else if excess = 0 then .ok (wholeNumber negative significand, b :: rest)
      else finishFloat negative significand excess (b :: rest)

theorem readAfterWhole_append (negative : Bool) (significand : Nat) {digits tail : Bytes}
    (h : Digits digits) (htail : NoDigit tail) :
    readAfterWhole negative significand (digits ++ tail) =
      readPlaces negative significand digits.length tail := by
  simp only [readAfterWhole, dropDigits_append h htail, List.length_append,
    Nat.add_sub_cancel]
  cases tail <;> rfl

theorem readPlaces_ends (negative : Bool) (significand excess : Nat) {rest : Bytes}
    (h : EndsNumber rest) :
    readPlaces negative significand excess rest =
      if excess = 0 then .ok (wholeNumber negative significand, rest)
      else finishFloat negative significand excess rest := by
  cases rest with
  | nil => rfl
  | cons b rest =>
      obtain ⟨_, hpoint, hletter⟩ := h b rfl
      simp [readPlaces, hpoint, hletter]

theorem readPlaces_settles (negative : Bool) (significand excess : Nat) {places : Bytes}
    (h : Places places) : Settles (readPlaces negative significand excess) places := by
  cases h with
  | scale h =>
      cases h with
      | none =>
          by_cases hexcess : excess = 0
          · refine ⟨some (wholeNumber negative significand), fun rest hrest => ?_⟩
            rw [List.nil_append, readPlaces_ends negative significand excess hrest,
              if_pos hexcess]
            rfl
          · refine ⟨_, fun rest hrest => Eq.trans (congrArg Except.toOption ?_)
              (toOption_finishFloat negative significand excess rest)⟩
            rw [List.nil_append, readPlaces_ends negative significand excess hrest,
              if_neg hexcess]
      | power hletter hsign hne h =>
          obtain ⟨found, hfound⟩ :=
            readExponent_settles negative significand excess hsign hne h
          refine ⟨found, fun rest hrest => ?_⟩
          rw [List.cons_append, readPlaces, if_neg (isDigit_of_isExponentLetter hletter).2,
            if_pos hletter]
          exact hfound rest hrest
  | fraction hne h hscale =>
      obtain ⟨found, hfound⟩ :=
        readFraction_settles negative significand excess hne h hscale
      refine ⟨found, fun rest hrest => ?_⟩
      rw [List.cons_append, readPlaces, if_pos rfl]
      exact hfound rest hrest

theorem readAfterWhole_settles (negative : Bool) (significand : Nat) {digits places : Bytes}
    (h : Digits digits) (hplaces : Places places) :
    Settles (readAfterWhole negative significand) (digits ++ places) := by
  obtain ⟨found, hfound⟩ := readPlaces_settles negative significand digits.length hplaces
  refine ⟨found, fun rest hrest => ?_⟩
  rw [List.append_assoc, readAfterWhole_append negative significand h
    (hplaces.noDigit hrest)]
  exact hfound rest hrest

theorem readNumber_zero (negative : Bool) {tail : Bytes} (h : NoDigit tail) :
    readNumber negative (byte '0' :: tail) = readAfterWhole negative 0 tail := by
  cases tail with
  | nil => rfl
  | cons b tail => simp [readNumber, h b rfl]

theorem readNumber_settles (negative : Bool) {whole places : Bytes} (h : Whole whole)
    (hplaces : Places places) : Settles (readNumber negative) (whole ++ places) := by
  cases h with
  | zero =>
      obtain ⟨found, hfound⟩ := readAfterWhole_settles negative 0 digits_nil hplaces
      refine ⟨found, fun rest hrest => ?_⟩
      rw [List.append_assoc, List.singleton_append,
        readNumber_zero negative (hplaces.noDigit hrest)]
      exact hfound rest hrest
  | @digits b rest hb hne h =>
      obtain ⟨total, taken, left, hleft, -, htake⟩ := takeDigits_append (digitValue b) 1 h
      obtain ⟨found, hfound⟩ := readAfterWhole_settles negative total hleft hplaces
      refine ⟨found, fun tail htail => ?_⟩
      rw [List.append_assoc, List.cons_append, readNumber.eq_def]
      simp only [if_neg hne, if_pos hb, htake _ (hplaces.noDigit htail)]
      rw [← List.append_assoc]
      exact hfound tail htail

namespace Numeral

def number? (n : Numeral) : Option Number :=
  (readNumber n.negative (n.whole ++ n.places)).toOption.map (·.1)

theorem toOption_readNumber (n : Numeral) {rest : Bytes} (h : EndsNumber rest) :
    (readNumber n.negative (n.whole ++ n.places ++ rest)).toOption =
      n.number?.map (·, rest) := by
  obtain ⟨found, hfound⟩ := readNumber_settles n.negative n.isWhole n.isPlaces
  have halone := hfound [] endsNumber_nil
  rw [List.append_nil] at halone
  rw [hfound rest h, number?, halone, Option.map_map]
  cases found <;> rfl

theorem number?_whole {n : Numeral} (hplaces : n.places = [])
    (hsmall : continued 0 n.whole < wordSize) :
    n.number? = some (wholeNumber n.negative (continued 0 n.whole)) := by
  have hread : readNumber n.negative n.whole =
      .ok (wholeNumber n.negative (continued 0 n.whole), []) := by
    have hwhole := n.isWhole
    generalize n.whole = whole at hwhole hsmall ⊢
    cases hwhole with
    | zero => rfl
    | @digits b rest hb hne h =>
        rw [continued_cons, Nat.zero_mul, Nat.zero_add] at hsmall ⊢
        simpa using readNumber_digits n.negative hne hb h hsmall endsNumber_nil
  rw [number?, hplaces, List.append_nil, hread]
  rfl

end Numeral

/-! Only whole parts alone are read as integers. -/

theorem finishFloat_ne_integer {negative : Bool} {significand : Nat} {exponent : Int}
    {text rest : Bytes} {z : Integer} :
    finishFloat negative significand exponent text ≠ .ok (.integer z, rest) := by
  intro h
  unfold finishFloat at h
  split at h <;> cases h

theorem readExponent_ne_integer {negative : Bool} {significand : Nat} {exponent : Int}
    {text rest : Bytes} {z : Integer} :
    readExponent negative significand exponent text ≠ .ok (.integer z, rest) := by
  intro h
  unfold readExponent at h
  simp only at h
  split at h
  · cases h
  · split at h
    · split at h
      · exact finishFloat_ne_integer h
      · split at h <;> cases h
    · cases h

theorem readScale_ne_integer {negative : Bool} {significand : Nat} {exponent : Int}
    {text rest : Bytes} {z : Integer} :
    readScale negative significand exponent text ≠ .ok (.integer z, rest) := by
  intro h
  unfold readScale at h
  split at h
  · exact finishFloat_ne_integer h
  · split at h
    · exact readExponent_ne_integer h
    · exact finishFloat_ne_integer h

theorem readFraction_ne_integer {negative : Bool} {significand : Nat} {exponent : Int}
    {text rest : Bytes} {z : Integer} :
    readFraction negative significand exponent text ≠ .ok (.integer z, rest) := by
  intro h
  unfold readFraction at h
  simp only at h
  split at h
  · cases h
  · exact readScale_ne_integer h

theorem readPlaces_integer {negative : Bool} {significand excess : Nat} {text rest : Bytes}
    {z : Integer} (h : readPlaces negative significand excess text = .ok (.integer z, rest)) :
    excess = 0 ∧ wholeNumber negative significand = .integer z ∧ text = rest := by
  have hwhole : ∀ behind, Except.ok (wholeNumber negative significand, behind) =
      (Except.ok (.integer z, rest) : Except Fault (Number × Bytes)) →
      wholeNumber negative significand = .integer z ∧ behind = rest := by
    intro behind heq
    exact Prod.mk.inj (Except.ok.inj heq)
  unfold readPlaces at h
  split at h
  · split at h
    · rename_i hexcess
      exact ⟨hexcess, hwhole _ h⟩
    · exact absurd h finishFloat_ne_integer
  · split at h
    · exact absurd h readFraction_ne_integer
    · split at h
      · exact absurd h readExponent_ne_integer
      · split at h
        · rename_i hexcess
          exact ⟨hexcess, hwhole _ h⟩
        · exact absurd h finishFloat_ne_integer

/-- When digits of the whole part do not fit, the excess keeps it from being an integer. -/
theorem Numeral.whole_of_number? {n : Numeral} {z : Integer}
    (h : n.number? = some (.integer z)) :
    n.places = [] ∧ wholeNumber n.negative (continued 0 n.whole) = .integer z := by
  have hread := n.toOption_readNumber endsNumber_nil
  rw [h, List.append_nil] at hread
  replace hread := Outcome.toOption_eq_some.mp hread
  have hends := n.isPlaces.noDigit endsNumber_nil
  rw [List.append_nil] at hends
  have hwhole := n.isWhole
  generalize n.whole = whole at hwhole hread ⊢
  cases hwhole with
  | zero =>
      rw [List.singleton_append, readNumber_zero n.negative hends, ← List.nil_append n.places,
        readAfterWhole_append n.negative 0 digits_nil hends] at hread
      obtain ⟨_, hvalue, hplaces⟩ := readPlaces_integer hread
      exact ⟨hplaces, hvalue⟩
  | @digits b rest hb hne hdigits =>
      obtain ⟨total, taken, left, hleft, htotal, htake⟩ :=
        takeDigits_append (digitValue b) 1 hdigits
      rw [List.cons_append, readNumber.eq_def] at hread
      simp only [if_neg hne, if_pos hb, htake _ hends] at hread
      rw [readAfterWhole_append n.negative total hleft hends] at hread
      obtain ⟨hexcess, hvalue, hplaces⟩ := readPlaces_integer hread
      rw [htotal (List.length_eq_zero_iff.mp hexcess)] at hvalue
      rw [continued_cons, Nat.zero_mul, Nat.zero_add]
      exact ⟨hplaces, hvalue⟩

/-! What readers take is a numeral. -/

theorem finishFloat_sound {negative : Bool} {significand : Nat} {exponent : Int}
    {text rest : Bytes} {x : Number}
    (h : finishFloat negative significand exponent text = .ok (x, rest)) : rest = text := by
  unfold finishFloat at h
  split at h
  · cases h
    rfl
  · cases h

theorem readSign_sound {down : Bool} {text rest : Bytes} (h : readSign text = (down, rest)) :
    ∃ sign, (sign = [] ∨ sign = [byte '-'] ∨ sign = [byte '+']) ∧ text = sign ++ rest := by
  unfold readSign at h
  split at h
  · cases h
    exact ⟨[], .inl rfl, rfl⟩
  · split at h
    · rename_i hminus
      cases h
      exact ⟨[byte '-'], .inr (.inl rfl), by rw [hminus, List.singleton_append]⟩
    · split at h
      · rename_i hplus
        cases h
        exact ⟨[byte '+'], .inr (.inr rfl), by rw [hplus, List.singleton_append]⟩
      · cases h
        exact ⟨[], .inl rfl, rfl⟩

theorem readExponent_sound {negative : Bool} {significand : Nat} {exponent : Int}
    {text rest : Bytes} {x : Number}
    (h : readExponent negative significand exponent text = .ok (x, rest)) :
    ∃ sign digits, (sign = [] ∨ sign = [byte '-'] ∨ sign = [byte '+']) ∧ digits ≠ [] ∧
      Digits digits ∧ text = sign ++ digits ++ rest := by
  unfold readExponent at h
  cases hsign : readSign text with
  | mk down behind =>
      obtain ⟨sign, hform, rfl⟩ := readSign_sound hsign
      simp only [hsign] at h
      split at h
      · cases h
      · rename_i b more
        split at h
        · rename_i hb
          cases htake : takeExponent (digitValue b) more with
          | mk result left =>
              obtain ⟨digits, hdigits, rfl⟩ := takeExponent_sound htake
              simp only [htake] at h
              cases result with
              | some shift =>
                  cases finishFloat_sound h
                  exact ⟨sign, b :: digits, hform, by simp,
                    List.forall_mem_cons.mpr ⟨hb, hdigits⟩, by simp⟩
              | none =>
                  simp only at h
                  split at h
                  · cases h
                  · cases h
                    obtain ⟨others, hothers, hleft⟩ := dropDigits_sound left
                    refine ⟨sign, b :: (digits ++ others), hform, by simp,
                      List.forall_mem_cons.mpr ⟨hb, hdigits.append hothers⟩, ?_⟩
                    calc
                      sign ++ b :: (digits ++ left) =
                          sign ++ b :: (digits ++ (others ++ dropDigits left)) := by
                        rw [← hleft]
                      _ = sign ++ b :: (digits ++ others) ++ dropDigits left := by simp
        · cases h

theorem readScale_sound {negative : Bool} {significand : Nat} {exponent : Int}
    {text rest : Bytes} {x : Number}
    (h : readScale negative significand exponent text = .ok (x, rest)) :
    ∃ scale, Scale scale ∧ text = scale ++ rest := by
  unfold readScale at h
  split at h
  · cases finishFloat_sound h
    exact ⟨[], .none, rfl⟩
  · split at h
    · rename_i hletter
      obtain ⟨sign, digits, hsign, hne, hdigits, rfl⟩ := readExponent_sound h
      exact ⟨_, .power hletter hsign hne hdigits, by simp⟩
    · cases finishFloat_sound h
      exact ⟨[], .none, rfl⟩

theorem readFraction_sound {negative : Bool} {significand : Nat} {exponent : Int}
    {text rest : Bytes} {x : Number}
    (h : readFraction negative significand exponent text = .ok (x, rest)) :
    ∃ digits scale, digits ≠ [] ∧ Digits digits ∧ Scale scale ∧
      text = digits ++ scale ++ rest := by
  unfold readFraction at h
  cases htake : takeDigits significand 0 text with
  | mk total behind =>
      obtain ⟨taken, left⟩ := behind
      obtain ⟨digits, hdigits, rfl⟩ := takeDigits_sound htake
      obtain ⟨others, hothers, hleft⟩ := dropDigits_sound left
      simp only [htake] at h
      split at h
      · cases h
      · rename_i hlonger
        obtain ⟨scale, hscale, hdrop⟩ := readScale_sound h
        refine ⟨digits ++ others, scale, ?_, hdigits.append hothers, hscale, ?_⟩
        · intro hnil
          obtain ⟨rfl, rfl⟩ := List.append_eq_nil_iff.mp hnil
          exact hlonger (congrArg List.length hleft)
        · rw [hdrop] at hleft
          rw [hleft]
          simp

theorem readPlaces_sound {negative : Bool} {significand excess : Nat} {text rest : Bytes}
    {x : Number} (h : readPlaces negative significand excess text = .ok (x, rest)) :
    ∃ places, Places places ∧ text = places ++ rest := by
  unfold readPlaces at h
  split at h
  · split at h
    · cases h
      exact ⟨[], .scale .none, rfl⟩
    · cases finishFloat_sound h
      exact ⟨[], .scale .none, rfl⟩
  · split at h
    · rename_i hpoint
      obtain ⟨digits, scale, hne, hdigits, hscale, rfl⟩ := readFraction_sound h
      exact ⟨_, .fraction hne hdigits hscale, by rw [hpoint, List.cons_append]⟩
    · split at h
      · rename_i hletter
        obtain ⟨sign, digits, hsign, hne, hdigits, rfl⟩ := readExponent_sound h
        exact ⟨_, .scale (.power hletter hsign hne hdigits), rfl⟩
      · split at h
        · cases h
          exact ⟨[], .scale .none, rfl⟩
        · cases finishFloat_sound h
          exact ⟨[], .scale .none, rfl⟩

theorem noDigit_dropDigits (text : Bytes) : NoDigit (dropDigits text) := by
  intro b hb
  have hhead := List.head?_dropWhile_not isDigit text
  rw [← dropDigits, hb] at hhead
  simpa using hhead

theorem readAfterWhole_sound {negative : Bool} {significand : Nat} {text rest : Bytes}
    {x : Number} (h : readAfterWhole negative significand text = .ok (x, rest)) :
    ∃ digits places, Digits digits ∧ Places places ∧ text = digits ++ places ++ rest := by
  obtain ⟨digits, hdigits, htext⟩ := dropDigits_sound text
  rw [htext, readAfterWhole_append negative significand hdigits (noDigit_dropDigits text)] at h
  obtain ⟨places, hplaces, hdrop⟩ := readPlaces_sound h
  exact ⟨digits, places, hdigits, hplaces, by rw [htext, hdrop, List.append_assoc]⟩

theorem readNumber_sound {negative : Bool} {text rest : Bytes} {x : Number}
    (h : readNumber negative text = .ok (x, rest)) :
    ∃ n : Numeral, n.negative = negative ∧ text = n.whole ++ n.places ++ rest := by
  cases text with
  | nil => cases h
  | cons b text =>
      by_cases hzero : b = byte '0'
      · subst hzero
        have hnodigit : NoDigit text := by
          cases text with
          | nil => simp [NoDigit]
          | cons c text =>
              by_cases hc : isDigit c = true
              · simp [readNumber, hc] at h
              · exact noDigit_cons (by simpa using hc) text
        rw [readNumber_zero negative hnodigit] at h
        obtain ⟨digits, places, hdigits, hplaces, rfl⟩ := readAfterWhole_sound h
        cases digits with
        | nil => exact ⟨⟨negative, _, places, .zero, hplaces⟩, rfl, by simp⟩
        | cons c digits =>
            have hc := hdigits c (by simp)
            simp [NoDigit, hc] at hnodigit
      · rw [readNumber.eq_def] at h
        simp only [if_neg hzero] at h
        split at h
        · rename_i hb
          cases htake : takeDigits (digitValue b) 1 text with
          | mk total behind =>
              obtain ⟨taken, left⟩ := behind
              obtain ⟨digits, hdigits, rfl⟩ := takeDigits_sound htake
              simp only [htake] at h
              obtain ⟨others, places, hothers, hplaces, rfl⟩ := readAfterWhole_sound h
              exact ⟨⟨negative, _, places, .digits hb hzero (hdigits.append hothers), hplaces⟩,
                rfl, by simp⟩
        · cases h

end ChainArchive.Json
