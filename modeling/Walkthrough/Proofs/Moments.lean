import Mathlib.Data.List.Basic
import Walkthrough.Moment.Reader
import Walkthrough.Proofs.Cutting
import Walkthrough.Proofs.Numerals

/-!
# Moments are read back

A moment is put on record with its fraction of a second, and with a Z for universal time.  Main
statement: the relaxed reader takes every moment that is written so, of whatever year, for the
moment that it is, if its distance from universal time is one of whole minutes, as it always is in a
text.  Each part is read off the front with anything behind it that cannot belong to it, so that the
parts can be put together.
-/

namespace Walkthrough

namespace CharReader

variable {α β : Type} {p : Char → Bool} {s rest digits : List Char}

/-- A reader that succeeds hands over to the next one. -/
lemma bind_eq {r : CharReader α} {a : α} (h : r s = some (a, rest)) (f : α → CharReader β) :
    (r >>= f) s = f a rest := by
  change (r s).bind (fun x => f x.1 x.2) = f a rest
  rw [h, Option.bind_some]

lemma char_cons (c : Char) (s : List Char) : char c (c :: s) = some ((), s) := if_pos rfl

lemma charThat_cons {c : Char} (h : p c = true) (s : List Char) :
    charThat p (c :: s) = some (c, s) := if_pos h

lemma skip_of_stop (h : ∀ c ∈ s.head?, p c = false) : skip p s = some ((), s) := by
  have hdrop : s.dropWhile p = s := Text.dropWhile_append_stop (u := []) (by simp) h
  rw [skip, hdrop]

/-- Digits are taken up to the greatest number of them, or else up to what is no digit. -/
lemma number_append {least most : Nat} (hne : digits ≠ [])
    (hdigits : ∀ c ∈ digits, Text.isDigit c = true) (hleast : least ≤ digits.length)
    (hmost : digits.length ≤ most)
    (hstop : digits.length < most → ∀ c ∈ rest.head?, Text.isDigit c = false) :
    number least most (digits ++ rest) = some (Nat.ofDigitChars 10 digits 0, rest) := by
  have htake : (digits ++ rest).take most = digits ++ rest.take (most - digits.length) := by
    rw [List.take_append, List.take_of_length_le hmost]
  have hwhile : ((digits ++ rest).take most).takeWhile Text.isDigit = digits := by
    rw [htake]
    refine Text.takeWhile_append_stop hdigits fun c hc => ?_
    rw [List.head?_take] at hc
    split_ifs at hc with hzero
    · cases hc
    · exact hstop (by omega) c hc
  rw [number, hwhile, if_neg (by omega), Text.natural?_eq hne hdigits, Option.map_some,
    List.drop_left]

/-- Two digits at most are taken of a number that is written in two. -/
lemma number_padded {least n : Nat} (hleast : least ≤ 2) (hn : n < 100) (rest : List Char) :
    number least 2 ((padded 2 n).toList ++ rest) = some (n, rest) := by
  have hlength : (padded 2 n).toList.length = 2 := length_padded (by decide) hn
  rw [number_append (padded_ne_nil 2 n) (fun _ => isDigit_of_mem_padded) (by omega) (by omega)
    (by omega), ofDigitChars_padded]

lemma numeral_padded (width n : Nat) (hstop : ∀ c ∈ rest.head?, Text.isDigit c = false) :
    numeral ((padded width n).toList ++ rest) = some (n, rest) := by
  have hpos : 0 < (padded width n).toList.length :=
    List.length_pos_iff.2 (padded_ne_nil width n)
  rw [numeral, number_append (padded_ne_nil width n) (fun _ => isDigit_of_mem_padded) hpos
    (by rw [List.length_append]; omega) fun _ => hstop, ofDigitChars_padded]

end CharReader

open CharReader

/-! ### The parts of a moment -/

section Parts

variable {rest : List Char} {n : Nat}

lemma isBlank_head?_padded (width n : Nat) (rest : List Char) :
    ∀ c ∈ ((padded width n).toList ++ rest).head?, Text.isBlank c = false := by
  intro c hc
  rw [List.head?_append_of_ne_nil _ (padded_ne_nil width n)] at hc
  exact Text.isBlank_of_isDigit (isDigit_of_mem_padded (List.mem_of_mem_head? hc))

lemma looseNumber_padded (hn : n < 100) (rest : List Char) :
    looseNumber ((padded 2 n).toList ++ rest) = some (n, rest) := by
  rw [looseNumber, bind_eq (skip_of_stop (isBlank_head?_padded 2 n rest))]
  exact number_padded (by decide) hn rest

/-- A year without a sign starts with a digit. -/
lemma looseYear_cons {c : Char} (hc : Text.isDigit c = true) (rest : List Char) :
    looseYear (c :: rest) = (number 1 4 (c :: rest)).map fun r => ((r.1 : Int), r.2) := by
  rw [looseYear, List.dropWhile_cons_of_neg (by simp [Text.isBlank_of_isDigit hc])]
  split
  · next hplus =>
    obtain rfl := (List.cons.inj hplus).1
    exact absurd hc (by decide)
  · next hminus =>
    obtain rfl := (List.cons.inj hminus).1
    exact absurd hc (by decide)
  · rfl

lemma looseYear_plus (rest : List Char) :
    looseYear ('+' :: rest) = (numeral rest).map fun r => ((r.1 : Int), r.2) := rfl

lemma looseYear_minus (rest : List Char) :
    looseYear ('-' :: rest) = (numeral rest).map fun r => (-(r.1 : Int), r.2) := rfl

lemma looseYear_yearText (year : Int) (hstop : ∀ c ∈ rest.head?, Text.isDigit c = false) :
    looseYear ((yearText year).toList ++ rest) = some (year, rest) := by
  rw [yearText]
  split_ifs with hshort hneg
  · have hnumber : number 1 4 ((padded 4 year.toNat).toList ++ rest) = some (year.toNat, rest) := by
      have hlength : (padded 4 year.toNat).toList.length = 4 :=
        length_padded (by decide) (by omega)
      rw [number_append (padded_ne_nil 4 _) (fun _ => isDigit_of_mem_padded) (by omega) (by omega)
        (by omega), ofDigitChars_padded]
    obtain ⟨c, digits, hcons⟩ := List.exists_cons_of_ne_nil (padded_ne_nil 4 year.toNat)
    have hc : Text.isDigit c = true := isDigit_of_mem_padded (hcons ▸ List.mem_cons_self)
    rw [hcons] at hnumber ⊢
    rw [List.cons_append, looseYear_cons hc, ← List.cons_append, hnumber, Option.map_some]
    simp only [Option.some.injEq, Prod.mk.injEq, and_true]
    omega
  · simp only [String.toList_append, String.reduceToList, List.cons_append, List.nil_append]
    rw [looseYear_minus, numeral_padded 4 _ hstop, Option.map_some]
    simp only [Option.some.injEq, Prod.mk.injEq, and_true]
    omega
  · simp only [String.toList_append, String.reduceToList, List.cons_append, List.nil_append]
    rw [looseYear_plus, numeral_padded 4 _ hstop, Option.map_some]
    simp only [Option.some.injEq, Prod.mk.injEq, and_true]
    omega

/-- The digits of a fraction count from the left, and those that are left out are zeros. -/
lemma fractionOfSecond_padded {width : Nat} (hpos : 0 < width) (hwidth : width ≤ 9)
    (hn : n < 10 ^ width) (hstop : ∀ c ∈ rest.head?, Text.isDigit c = false) :
    fractionOfSecond ('.' :: ((padded width n).toList ++ rest)) =
      some (10 ^ (9 - width) * n, rest) := by
  have hdigits : ∀ c ∈ (padded width n).toList, Text.isDigit c = true :=
    fun _ => isDigit_of_mem_padded
  have hlength := length_padded hpos hn
  have htake : ((padded width n).toList ++ List.replicate 9 '0').take 9 =
      (padded width n).toList ++ List.replicate (9 - width) '0' := by
    rw [List.take_append, List.take_of_length_le (by omega), List.take_replicate, hlength,
      Nat.min_eq_left (by omega)]
  have hvalue : Text.natural? ((padded width n).toList ++ List.replicate (9 - width) '0') =
      some (10 ^ (9 - width) * n) := by
    rw [Text.natural?_eq (List.append_ne_nil_of_left_ne_nil (padded_ne_nil width n) _) ?_,
      Nat.ofDigitChars_append, ofDigitChars_padded, Nat.ofDigitChars_replicate_zero]
    intro c hc
    rcases List.mem_append.1 hc with hc | hc
    · exact hdigits c hc
    · rw [List.eq_of_mem_replicate hc]
      rfl
  simp only [fractionOfSecond]
  rw [Text.takeWhile_append_stop hdigits hstop, Text.dropWhile_append_stop hdigits hstop, htake,
    hvalue, if_neg (by simpa using padded_ne_nil width n), Option.map_some]

lemma fractionOfSecond_nil (hpoint : rest.head? ≠ some '.') :
    fractionOfSecond rest = some (0, rest) := by
  cases rest with
  | nil => rfl
  | cons c rest =>
    have hc : c ≠ '.' := by simpa using hpoint
    simp [fractionOfSecond, hc]

lemma fractionOfSecond_fractionText (hn : n < 1000000000)
    (hstop : ∀ c ∈ rest.head?, Text.isDigit c = false) (hpoint : rest.head? ≠ some '.') :
    fractionOfSecond ((Moment.fractionText n).toList ++ rest) = some (n, rest) := by
  have hfraction : ∀ width m, 0 < width → width ≤ 9 → m < 10 ^ width → 10 ^ (9 - width) * m = n →
      fractionOfSecond (("." ++ padded width m).toList ++ rest) = some (n, rest) := by
    intro width m hpos hwidth hm hexact
    simp only [String.toList_append, String.reduceToList, List.cons_append, List.nil_append]
    rw [fractionOfSecond_padded hpos hwidth hm hstop, hexact]
  rw [Moment.fractionText]
  split_ifs with hzero hmilli hmicro
  · subst hzero
    exact fractionOfSecond_nil hpoint
  · exact hfraction 3 _ (by decide) (by decide) (by omega) (by omega)
  · exact hfraction 6 _ (by decide) (by decide) (by omega) (by omega)
  · exact hfraction 9 _ (by decide) (by decide) (by omega) (by omega)

/-! ### The distance from universal time -/

lemma guard_eq {p : Prop} [Decidable p] (hp : p) (s : List Char) :
    (guard p : CharReader Unit) s = some ((), s) := by
  rw [guard, if_pos hp]
  rfl

/-- The mark between the hours and the minutes of a distance, and nothing behind it, is skipped. -/
lemma skip_colon (hstop : ∀ c ∈ rest.head?, (c == ':' || Text.isBlank c) = false) :
    skip (fun c => c == ':' || Text.isBlank c) (':' :: rest) = some ((), rest) := by
  have hdrop := Text.dropWhile_append_stop (p := fun c => c == ':' || Text.isBlank c) (u := [':'])
    (List.forall_mem_singleton.2 (by decide)) hstop
  rw [skip]
  exact congrArg (fun s => some ((), s)) hdrop

lemma offsetFrom_sign {between : CharReader Unit} {c : Char} {sign : Int} {hours minutes : Nat}
    (hc : c = '+' ∧ sign = 1 ∨ c = '-' ∧ sign = -1) (hhours : hours < 100) (hminutes : minutes < 60)
    (hbetween : between (':' :: ((padded 2 minutes).toList ++ rest)) =
      some ((), (padded 2 minutes).toList ++ rest)) :
    offsetFrom between
        (c :: ((padded 2 hours).toList ++ ':' :: ((padded 2 minutes).toList ++ rest))) =
      some (sign * (3600 * hours + 60 * minutes), rest) := by
  have hsign : ∀ s, offsetSign (c :: s) = some (sign, s) := by
    intro s
    rcases hc with ⟨rfl, rfl⟩ | ⟨rfl, rfl⟩ <;> rfl
  have hread : ∀ s, offsetFrom between (c :: s) = StateT.run (do
      let sign ← offsetSign
      let hours ← number 2 2
      between
      let minutes ← number 2 2
      guard (minutes < 60)
      return sign * (3600 * hours + 60 * minutes)) (c :: s) := by
    intro s
    rcases hc with ⟨rfl, rfl⟩ | ⟨rfl, rfl⟩ <;> rfl
  rw [hread, StateT.run, bind_eq (hsign _), bind_eq (number_padded le_rfl hhours _),
    bind_eq hbetween, bind_eq (number_padded le_rfl (by omega) _), bind_eq (guard_eq hminutes _)]
  rfl

lemma looseOffset_cons {c : Char} (hc : c.toUpper ≠ 'U') (s : List Char) :
    looseOffset (c :: s) = offsetFrom (skip fun c => c == ':' || Text.isBlank c) (c :: s) := by
  unfold looseOffset
  split
  · next heq =>
    obtain ⟨rfl, rfl⟩ := List.cons.inj heq
    rw [if_neg fun h => hc h.1]
  · rfl

/-- A sign, hours and minutes are read off as a distance, with nothing behind them. -/
lemma looseOffset_sign {c : Char} {sign : Int} {hours minutes : Nat}
    (hc : c = '+' ∧ sign = 1 ∨ c = '-' ∧ sign = -1) (hhours : hours < 100)
    (hminutes : minutes < 60) :
    looseOffset (c :: ((padded 2 hours).toList ++ ':' :: (padded 2 minutes).toList)) =
      some (sign * (3600 * hours + 60 * minutes), []) := by
  have hupper : c.toUpper ≠ 'U' := by rcases hc with ⟨rfl, -⟩ | ⟨rfl, -⟩ <;> decide
  rw [looseOffset_cons hupper, ← List.append_nil (padded 2 minutes).toList]
  refine offsetFrom_sign hc hhours hminutes (skip_colon fun d hd => ?_)
  rw [List.head?_append_of_ne_nil _ (padded_ne_nil 2 _)] at hd
  have hdigit : Text.isDigit d = true := isDigit_of_mem_padded (List.mem_of_mem_head? hd)
  rw [Text.isBlank_of_isDigit hdigit, Bool.or_false, beq_eq_false_iff_ne]
  rintro rfl
  exact absurd hdigit (by decide)

/-- The distance from universal time as it is put on record, if that is not rounded. -/
lemma looseOffset_zone {offset : Int} (hoffset : -86400 < offset ∧ offset < 86400)
    (hwhole : 60 ∣ offset) :
    looseOffset (if offset = 0 then "Z" else Moment.offsetText offset).toList =
      some (offset, []) := by
  split_ifs with hzero
  · rw [hzero]
    rfl
  · have hhours : (offset.natAbs + 30) / 60 / 60 < 100 := by omega
    have hminutes : (offset.natAbs + 30) / 60 % 60 < 60 := Nat.mod_lt _ (by decide)
    rw [Moment.offsetText]
    split_ifs with hneg <;>
      simp only [String.toList_append, String.reduceToList, List.cons_append, List.nil_append,
        List.append_assoc]
    · rw [looseOffset_sign (Or.inr ⟨rfl, rfl⟩) hhours hminutes]
      simp only [Option.some.injEq, Prod.mk.injEq, and_true]
      omega
    · rw [looseOffset_sign (Or.inl ⟨rfl, rfl⟩) hhours hminutes]
      simp only [Option.some.injEq, Prod.mk.injEq, and_true]
      omega

end Parts

/-! ### Whole moments -/

lemma lift_eq {α : Type} {o : Option α} {a : α} (h : o = some a) (s : List Char) :
    (liftM o : CharReader α) s = some (a, s) := by
  subst h
  rfl

lemma Date.of?_eq (date : Date) : Date.of? date.year date.month date.day = some date :=
  dif_pos ⟨date.year_mem, date.month_mem, date.day_mem⟩

lemma Moment.of?_eq (m : Moment) :
    Moment.of? m.date m.hour m.minute m.second m.nano m.offset = some m :=
  dif_pos ⟨m.hour_lt, m.minute_lt, m.second_le, m.nano_lt, m.offset_mem, m.universal_mem⟩

lemma Date.month_lt (date : Date) : date.month < 100 := by
  have := date.month_mem
  omega

lemma Date.day_lt (date : Date) : date.day < 100 := by
  have hday := date.day_mem.2
  have hmonth : daysInMonth date.year date.month ≤ 31 := by
    rw [daysInMonth]
    split_ifs <;> omega
  omega

namespace Moment

variable {m : Moment}

/-- The zone that ends a recorded moment. -/
def zoneText (m : Moment) : String := if m.offset = 0 then "Z" else offsetText m.offset

lemma exists_zoneText (m : Moment) :
    ∃ c s, m.zoneText.toList = c :: s ∧ (c = 'Z' ∨ c = '+' ∨ c = '-') := by
  rw [zoneText]
  split_ifs with hzero
  · exact ⟨'Z', [], rfl, Or.inl rfl⟩
  · rw [offsetText]
    split_ifs with hneg <;>
      simp only [String.toList_append, String.reduceToList, List.cons_append, List.nil_append]
    · exact ⟨'-', _, rfl, by simp⟩
    · exact ⟨'+', _, rfl, by simp⟩

lemma toList_recordText (m : Moment) :
    m.recordText.toList = (yearText m.date.year).toList ++ '-' :: ((padded 2 m.date.month).toList ++
      '-' :: ((padded 2 m.date.day).toList ++ 'T' :: ((padded 2 m.hour).toList ++
        ':' :: ((padded 2 m.minute).toList ++ ':' :: ((padded 2 m.second).toList ++
          ((fractionText m.nano).toList ++ m.zoneText.toList)))))) := by
  simp only [recordText, clockText, Date.text, zoneText, String.toList_append, String.reduceToList,
    List.append_assoc, List.cons_append, List.nil_append]

/-- A moment that is put on record is read back from it, unless its distance from universal time is
rounded there. -/
lemma ofRelaxed?_recordText (hwhole : 60 ∣ m.offset) : ofRelaxed? m.recordText = some m := by
  obtain ⟨c, s, hzone, hc⟩ := m.exists_zoneText
  have hoffset : looseOffset m.zoneText.toList = some (m.offset, []) :=
    looseOffset_zone m.offset_mem hwhole
  -- no part can be taken for a longer one by what stands behind it
  have hdigit : ∀ d ∈ m.zoneText.toList.head?, Text.isDigit d = false := by
    rw [hzone]
    rintro d ⟨⟩
    rcases hc with rfl | rfl | rfl <;> rfl
  have hblank : ∀ d ∈ m.zoneText.toList.head?, Text.isBlank d = false := by
    rw [hzone]
    rintro d ⟨⟩
    rcases hc with rfl | rfl | rfl <;> rfl
  have hpoint : m.zoneText.toList.head? ≠ some '.' := by
    rw [hzone]
    rintro ⟨⟩
    rcases hc with hc | hc | hc <;> cases hc
  have hmark : ∀ d : Char, Text.isBlank d = false → ∀ rest,
      skip Text.isBlank (d :: rest) = some ((), d :: rest) := by
    intro d hd rest
    exact skip_of_stop (Text.stop_cons hd rest)
  have hmoment : looseMoment m.recordText.toList = some (m, []) := by
    have hsecond : m.second < 100 := by have := m.second_le; omega
    have hminute : m.minute < 100 := by have := m.minute_lt; omega
    have hhour : m.hour < 100 := by have := m.hour_lt; omega
    rw [toList_recordText, looseMoment,
      bind_eq (looseYear_yearText m.date.year (Text.stop_cons (by decide) _)),
      bind_eq (hmark '-' rfl _), bind_eq (char_cons '-' _),
      bind_eq (looseNumber_padded m.date.month_lt _),
      bind_eq (hmark '-' rfl _), bind_eq (char_cons '-' _),
      bind_eq (looseNumber_padded m.date.day_lt _), bind_eq (charThat_cons rfl _),
      bind_eq (looseNumber_padded hhour _), bind_eq (hmark ':' rfl _), bind_eq (char_cons ':' _),
      bind_eq (looseNumber_padded hminute _), bind_eq (hmark ':' rfl _), bind_eq (char_cons ':' _),
      bind_eq (looseNumber_padded hsecond _),
      bind_eq (fractionOfSecond_fractionText m.nano_lt hdigit hpoint),
      bind_eq (skip_of_stop hblank), bind_eq hoffset, bind_eq (skip_of_stop (by simp)),
      bind_eq (lift_eq m.date.of?_eq [])]
    exact lift_eq m.of?_eq []
  rw [ofRelaxed?, whole, hmoment]

end Moment

/-! ### Distances that texts give -/

namespace CharReader

variable {α β : Type} {r : CharReader α} {f : α → CharReader β} {law : β → Prop} {law' : α → Prop}

/-- Whether all that a reader gives obeys a law. -/
def Gives (r : CharReader α) (law : α → Prop) : Prop :=
  ∀ s a rest, r s = some (a, rest) → law a

lemma Gives.bind (hr : r.Gives law') (hf : ∀ a, law' a → (f a).Gives law) :
    (r >>= f).Gives law := by
  intro s b rest h
  obtain ⟨⟨a, mid⟩, ha, hb⟩ := Option.bind_eq_some_iff.1 h
  exact hf a (hr s a mid ha) mid b rest hb

/-- A reader that hands over to one that obeys a law obeys it, whatever it gives itself. -/
lemma Gives.of_bind (hf : ∀ a, (f a).Gives law) : (r >>= f).Gives law := by
  have hr : r.Gives fun _ => True := fun _ _ _ _ => trivial
  exact hr.bind fun a _ => hf a

lemma Gives.of_whole (h : r.Gives law') {s : String} {a : α} (ha : whole r s = some a) :
    law' a := by
  rw [whole] at ha
  split at ha
  · next b hb =>
    obtain rfl := Option.some.inj ha
    exact h _ _ _ hb
  · cases ha

lemma law_of_given {a b : α} {s rest : List Char} (ha : law' a) (h : some (a, s) = some (b, rest)) :
    law' b :=
  (Prod.mk.inj (Option.some.inj h)).1 ▸ ha

lemma gives_lift {o : Option α} (h : ∀ a, o = some a → law' a) :
    (liftM o : CharReader α).Gives law' := by
  intro s a rest ha
  obtain ⟨b, hb, hab⟩ := Option.bind_eq_some_iff.1 ha
  exact law_of_given (h b hb) hab

lemma gives_offsetFrom (between : CharReader Unit) :
    (offsetFrom between).Gives fun offset => 60 ∣ offset := by
  have hsigned : Gives (do
      let sign ← offsetSign
      let hours ← number 2 2
      between
      let minutes ← number 2 2
      guard (minutes < 60)
      return sign * (3600 * hours + 60 * minutes)) fun offset => (60 : Int) ∣ offset := by
    refine .of_bind fun sign => .of_bind fun hours => .of_bind fun _ => .of_bind fun minutes =>
      .of_bind fun _ _ _ _ => law_of_given ?_
    exact Int.dvd_mul_of_dvd_right (by omega)
  intro s offset rest h
  unfold offsetFrom at h
  split at h
  · exact law_of_given (Int.dvd_zero 60) h
  · exact law_of_given (Int.dvd_zero 60) h
  · exact hsigned s offset rest h

lemma gives_looseOffset : looseOffset.Gives fun offset => 60 ∣ offset := by
  intro s offset rest h
  unfold looseOffset at h
  split at h
  · split_ifs at h
    · exact law_of_given (Int.dvd_zero 60) h
    · exact gives_offsetFrom _ _ _ _ h
  · exact gives_offsetFrom _ _ _ _ h

lemma gives_of? {date : Date} {hour minute second nano : Nat} {offset : Int} (h : 60 ∣ offset) :
    (liftM (Moment.of? date hour minute second nano offset) : CharReader Moment).Gives
      fun m => 60 ∣ m.offset := by
  refine gives_lift fun m hm => ?_
  rw [Moment.of?] at hm
  split_ifs at hm
  obtain rfl := Option.some.inj hm
  exact h

lemma gives_strictMoment : strictMoment.Gives fun m => 60 ∣ m.offset := by
  rw [strictMoment]
  -- neither the date nor the time matters
  iterate 12 refine .of_bind fun _ => ?_
  exact (gives_offsetFrom _).bind fun offset hoffset => .of_bind fun date => gives_of? hoffset

lemma gives_looseMoment : looseMoment.Gives fun m => 60 ∣ m.offset := by
  rw [looseMoment]
  iterate 17 refine .of_bind fun _ => ?_
  exact gives_looseOffset.bind fun offset hoffset =>
    .of_bind fun _ => .of_bind fun date => gives_of? hoffset

end CharReader

/-- Every moment that a text gives is ahead of universal time by whole minutes. -/
theorem Moment.dvd_offset_of_text {s : String} {m : Moment}
    (h : ofStrict? s = some m ∨ ofRelaxed? s = some m) : 60 ∣ m.offset :=
  h.elim CharReader.gives_strictMoment.of_whole CharReader.gives_looseMoment.of_whole

end Walkthrough
