import Stencil.Proofs.Format.Grammar

/-! # Precisions without a letter

Whether a format spec ends in its precision is found out from its end alone,
without regard to its parts. The two agree on every spec but those whose fill is
a line feed: these never count as ending in a precision.
-/

namespace Stencil.Format

variable {t letter : Text}

/-- The text ends in a point and digits, and no line feed stands in front of them. -/
theorem isPrecisionOnly_iff :
    isPrecisionOnly t ↔ ∃ before ds, t = before ++ '.' :: ds ∧ ds ≠ [] ∧
      (∀ c ∈ ds, isDecimal c) ∧ '\n' ∉ before := by
  constructor
  · intro h
    simp only [isPrecisionOnly] at h
    split at h
    · rename_i c before last front
      obtain ⟨digit, noBreak⟩ := (Bool.and_eq_true _ _).mp h
      -- the test goes over the text from its end
      obtain ⟨back, rfl⟩ : ∃ back, t = back.reverse := ⟨t.reverse, by simp⟩
      simp only [List.reverse_reverse] at last front
      have cut : back.takeWhile isDecimal ++ '.' :: before = back := by
        rw [← front, List.takeWhile_append_dropWhile]
      refine ⟨before.reverse, (back.takeWhile isDecimal).reverse, ?_, ?_, ?_, ?_⟩
      · calc back.reverse = (back.takeWhile isDecimal ++ '.' :: before).reverse := by rw [cut]
          _ = before.reverse ++ '.' :: (back.takeWhile isDecimal).reverse := by simp
      · cases back with
        | nil => cases last
        | cons d back =>
            cases last
            simp [digit]
      · intro d hd
        exact List.mem_takeWhile_imp (List.mem_reverse.mp hd)
      · intro hc
        have other := List.all_eq_true.mp noBreak '\n' (List.mem_reverse.mp hc)
        cases other
    · cases h
  · rintro ⟨before, ds, rfl, some, digits, noBreak⟩
    have front : (ds.reverse ++ '.' :: before.reverse).dropWhile isDecimal =
        '.' :: before.reverse := by
      rw [List.dropWhile_append_of_pos fun d hd => digits d (List.mem_reverse.mp hd)]
      rfl
    obtain ⟨d, last⟩ := Option.isSome_iff_exists.mp (List.getLast?_isSome.mpr some)
    have digit : isDecimal d := digits d (List.mem_of_getLast? last)
    have back : (ds.reverse ++ '.' :: before.reverse).head? = Option.some d := by
      simp [last]
    simp only [isPrecisionOnly, List.reverse_append, List.reverse_cons, List.append_assoc,
      List.cons_append, List.nil_append, front, back, digit, Bool.true_and, List.all_reverse]
    refine List.all_eq_true.mpr fun c hc => bne_iff_ne.mpr ?_
    rintro rfl
    exact noBreak hc

theorem Upto.rank {q : Char → Bool} {k : Nat} (h : Upto q t) (place : ∀ {c}, q c → rank c = k) :
    ∀ c ∈ t, rank c = k := by
  cases h with
  | none => simp
  | one hc =>
      intro c same
      obtain rfl := List.mem_singleton.mp same
      exact place hc

namespace SpecParts

/-- What stands between fill and alignment and the precision. -/
def middle (p : SpecParts) : Text :=
  p.sign ++ (p.negativeZero ++ (p.alternate ++ (p.digits ++ p.separator)))

theorem text_eq (p : SpecParts) : p.text = p.front ++ (p.middle ++ p.precision) := by
  simp [text, tail, middle]

theorem middle_rank (p : SpecParts) : ∀ c ∈ p.middle, rank c < 5 := by
  intro c hc
  simp only [middle, List.mem_append] at hc
  obtain h | h | h | h | h := hc
  · have := p.sign_ok.rank rank_sign c h
    omega
  · have := p.negativeZero_ok.rank rank_negativeZero c h
    omega
  · have := p.alternate_ok.rank rank_alternate c h
    omega
  · have := rank_decimal (p.digits_ok c h)
    omega
  · have := p.separator_ok.rank rank_separator c h
    omega

theorem not_mem_middle (p : SpecParts) {c : Char} (late : 5 ≤ rank c) : c ∉ p.middle := by
  intro h
  have := p.middle_rank c h
  omega

end SpecParts

theorem IsFront.last {front : Text} (h : IsFront front) : ∀ c ∈ front.getLast?, rank c = 6 := by
  cases h with
  | none => simp
  | bare hc =>
      rintro _ ⟨⟩
      exact rank_align hc
  | filled fill hc =>
      rintro _ ⟨⟩
      exact rank_align hc

/-- A fill may be a point, but the alignment behind it is no digit. -/
theorem IsFront.no_places {front before ds : Text} (h : IsFront front)
    (digits : ∀ c ∈ ds, isDecimal c) : front ≠ before ++ '.' :: ds := by
  rintro rfl
  obtain ⟨d, last⟩ : ∃ d, ('.' :: ds).getLast? = some d := ⟨_, List.getLast?_cons⟩
  have late := h.last d (by simp [List.getLast?_append, last])
  obtain rfl | hd := List.mem_cons.mp (List.mem_of_getLast? last)
  · exact absurd late (by decide)
  · have := rank_decimal (digits d hd)
    omega

theorem SpecParts.no_places (p : SpecParts) {before ds : Text} (digits : ∀ c ∈ ds, isDecimal c) :
    p.front ++ p.middle ≠ before ++ '.' :: ds := by
  intro cut
  have point : '.' ∉ p.middle := p.not_mem_middle (by decide)
  obtain ⟨more, -, rest⟩ | ⟨more, front, rest⟩ := List.append_eq_append_iff.mp cut
  · exact point (rest ▸ List.mem_append_right _ List.mem_cons_self)
  · cases more with
    | nil =>
        have whole : '.' :: ds = p.middle := rest
        exact point (whole ▸ List.mem_cons_self)
    | cons c more =>
        obtain ⟨rfl, rfl⟩ := List.cons.inj rest
        exact p.front_ok.no_places (fun d hd => digits d (List.mem_append_left _ hd)) front

/-- A spec ends in its precision when it has one and no letter, unless its fill is a line feed. -/
theorem isPrecisionOnly_parts {p : SpecParts} (one : Upto isLetter letter) :
    isPrecisionOnly (p.text ++ letter) ↔
      p.precision ≠ [] ∧ letter = [] ∧ '\n' ∉ p.front := by
  rw [isPrecisionOnly_iff]
  constructor
  · rintro ⟨before, ds, cut, some, digits, noBreak⟩
    obtain rfl : letter = [] := by
      cases one with
      | none => rfl
      | @one c hc =>
          obtain ⟨d, last⟩ := Option.isSome_iff_exists.mp (List.getLast?_isSome.mpr some)
          have same : Option.some c = Option.some d := by
            simpa [List.getLast?_append, List.getLast?_cons, last] using
              congrArg List.getLast? cut
          cases same
          have := rank_letter hc
          have := rank_decimal (digits c (List.mem_of_getLast? last))
          omega
    rw [List.append_nil, p.text_eq] at cut
    refine ⟨fun none => ?_, rfl, fun hb => ?_⟩
    · rw [none, List.append_nil] at cut
      exact p.no_places digits cut
    · have all : '\n' ∈ before ++ '.' :: ds := cut ▸ List.mem_append_left _ hb
      obtain h | h := List.mem_append.mp all
      · exact noBreak h
      · obtain h | h := List.mem_cons.mp h
        · cases h
        · exact absurd (digits _ h) (by decide)
  · rintro ⟨some, rfl, noBreak⟩
    obtain ⟨ds, places, some, digits⟩ : ∃ ds, p.precision = '.' :: ds ∧ ds ≠ [] ∧
        ∀ c ∈ ds, isDecimal c := by
      have precision := p.precision_ok
      generalize p.precision = written at precision some
      cases precision with
      | none => exact absurd rfl some
      | places some' digits => exact ⟨_, rfl, some', digits⟩
    refine ⟨p.front ++ p.middle, ds, ?_, some, digits, ?_⟩
    · simp [p.text_eq, places]
    · rw [List.mem_append]
      rintro (h | h)
      · exact noBreak h
      · exact p.not_mem_middle (by decide) h

end Stencil.Format
