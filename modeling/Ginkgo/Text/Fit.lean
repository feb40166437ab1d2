import Ginkgo.Text.Draw

/-!
# Text that has to fit

`draw_text_fit` of `ginkgo-status.c`. The buffer is the C string in it, and `Fit.used` is
history: how many of its bytes have been written, counted from the first one.

The loop measures a prefix and the ellipsis apart and then draws them as one string. That is
the same unless the prefix ends in an unfinished character, whose lead byte takes the bytes of
the ellipsis for its own. `fit_iff` is the result: what is drawn is the string or a prefix with
the ellipsis, the buffer is not overrun, and the drawn string is at most as wide as asked
exactly when no such seam is too wide (`SeamOverflow`).
-/

namespace Ginkgo

open CText

/-- The three bytes of `…`. -/
def ellipsis : Text := [0xe2, 0x80, 0xa6]

/-- The buffer, and how many of its bytes have been used with the terminator. -/
structure Fit where
  tmp : Text := []
  used : Nat := 1

/-- The loop of `draw_text_fit`, with `p` at the rest of the string. -/
def fitLoop (f : GsFont) (maxw : Int) (fit : Fit) (p : Text) : Fit :=
  if p.getD 0 0 ≠ 0 ∧ fit.tmp.length < 160 - 8 then
    let rest := (u8next p).2
    let add := p.length - rest.length
    if 160 ≤ fit.tmp.length + add + 3 then fit
    else
      let grown := fit.tmp ++ p.take add
      let used := max fit.used (grown.length + 1)
      if maxw < textW f grown + textW f ellipsis then { fit with used }
      else fitLoop f maxw { tmp := grown, used } rest
  else fit
termination_by p.length
decreasing_by exact u8next_shorter ‹_ ∧ _›.1

/-- `strcat(tmp, "…")`. -/
def Fit.strcat (fit : Fit) : Fit :=
  { tmp := fit.tmp ++ ellipsis, used := max fit.used (fit.tmp.length + ellipsis.length + 1) }

/-- The buffer of `draw_text_fit` at the end; nothing is written when the string fits. -/
def fitBuffer (f : GsFont) (maxw : Int) (s : Text) : Fit :=
  if textW f s ≤ maxw then { used := 0 } else (fitLoop f maxw {} s).strcat

/-- The string that `draw_text_fit` passes to `draw_text`. -/
def fitText (f : GsFont) (maxw : Int) (s : Text) : Text :=
  if textW f s ≤ maxw then s else (fitBuffer f maxw s).tmp

/-- `draw_text_fit`. -/
def drawTextFit (useGl : Bool) (f : GsFont) (x y maxw : Int) (s : Text) (c : UInt32) :
    List TextCall :=
  drawText useGl f x y (fitText f maxw s) c

/-! ## Widths of forms -/

/-- The width of a form. -/
def formWidth (f : GsFont) (form : Text) : Nat := f.advance (UInt32.ofNat (formValue form))

/-- A string is as wide as its forms up to the first that spells zero. -/
theorem textW_eq (f : GsFont) {s : Text} (clean : 0 ∉ s) :
    textW f s =
      (((forms s).takeWhile fun form => formValue form ≠ 0).map (formWidth f)).sum := by
  suffices general : ∀ w, (eachCp (fun w cp => w + f.advance cp) w s).1 =
      w + (((forms s).takeWhile fun form => formValue form ≠ 0).map (formWidth f)).sum by
    have := general 0
    rwa [Nat.zero_add] at this
  induction s using forms.induct with
  | case1 =>
      intro w
      rw [eachCp, forms]
      simp
  | case2 b rest ih =>
      intro w
      obtain ⟨behind, read⟩ := u8next_cons clean
      have zero : (u8next (b :: rest)).1 = 0 ↔
          formValue ((b :: rest).take (formLength b rest.length)) = 0 := by
        rw [← read]
        exact UInt32.toNat_inj.symm
      rw [eachCp, forms, behind]
      by_cases stops : (u8next (b :: rest)).1 = 0
      · rw [if_pos stops, List.takeWhile_cons_of_neg (by simpa using zero.mp stops)]
        simp
      · have goes : formValue ((b :: rest).take (formLength b rest.length)) ≠ 0 := fun none =>
          stops (zero.mpr none)
        rw [if_neg stops, List.takeWhile_cons_of_pos (by simpa using goes), List.map_cons,
          List.sum_cons, ih (fun member => clean (List.mem_of_mem_drop member)), formWidth,
          ← read, UInt32.ofNat_toNat, Nat.add_assoc]

/-- The width of a list of forms. -/
def formsWidth (f : GsFont) (l : List Text) : Nat :=
  ((l.takeWhile fun form => formValue form ≠ 0).map (formWidth f)).sum

section FormsWidth

variable (f : GsFont) {l m : List Text}

/-- Widths add up, as long as no form spells zero. -/
theorem formsWidth_append (some : ∀ form ∈ l, formValue form ≠ 0) :
    formsWidth f (l ++ m) = formsWidth f l + formsWidth f m := by
  have all : ∀ form ∈ l, decide (formValue form ≠ 0) = true := fun form member =>
    decide_eq_true (some form member)
  unfold formsWidth
  rw [List.takeWhile_append_of_pos all, List.takeWhile_eq_self_iff.mpr all, List.map_append,
    List.sum_append]

/-- More forms are no narrower. -/
theorem formsWidth_le_append : formsWidth f l ≤ formsWidth f (l ++ m) := by
  induction l with
  | nil => exact Nat.zero_le _
  | cons form l ih =>
      unfold formsWidth at *
      by_cases zero : formValue form = 0
      · rw [List.takeWhile_cons_of_neg (by simpa using zero)]
        exact Nat.zero_le _
      · rw [List.cons_append, List.takeWhile_cons_of_pos (by simpa using zero),
          List.takeWhile_cons_of_pos (by simpa using zero), List.map_cons, List.map_cons,
          List.sum_cons, List.sum_cons]
        exact Nat.add_le_add_left ih _

/-- Behind a form that spells zero nothing counts. -/
theorem formsWidth_append_of_zero {form : Text} (member : form ∈ l) (zero : formValue form = 0) :
    formsWidth f (l ++ m) = formsWidth f l := by
  induction l with
  | nil => cases member
  | cons first l ih =>
      unfold formsWidth at *
      by_cases stops : formValue first = 0
      · rw [List.cons_append, List.takeWhile_cons_of_neg (by simpa using stops),
          List.takeWhile_cons_of_neg (by simpa using stops)]
      · have later : form ∈ l := by
          rcases List.mem_cons.mp member with rfl | later
          · exact absurd zero stops
          · exact later
        rw [List.cons_append, List.takeWhile_cons_of_pos (by simpa using stops),
          List.takeWhile_cons_of_pos (by simpa using stops), List.map_cons, List.map_cons,
          List.sum_cons, List.sum_cons, ih later]

end FormsWidth

/-- The width of a string that starts with finished forms. -/
theorem textW_append (f : GsFont) {before : List Text} {rest : Text}
    (clean : 0 ∉ before.flatten ++ rest) (finished : ∀ form ∈ before, Finished form)
    (some : ∀ form ∈ before, formValue form ≠ 0) :
    textW f (before.flatten ++ rest) = textW f before.flatten + textW f rest := by
  have left : 0 ∉ before.flatten := fun zero => clean (List.mem_append_left _ zero)
  have right : 0 ∉ rest := fun zero => clean (List.mem_append_right _ zero)
  have alone := forms_append_of_finished finished []
  rw [List.append_nil, forms, List.append_nil] at alone
  have whole : textW f (before.flatten ++ rest) = formsWidth f (before ++ forms rest) := by
    rw [textW_eq f clean, forms_append_of_finished finished]
    rfl
  have first : textW f before.flatten = formsWidth f before := by
    rw [textW_eq f left, alone]
    rfl
  have second : textW f rest = formsWidth f (forms rest) := textW_eq f right
  rw [whole, first, second, formsWidth_append f some]

/-- The text before a cut has no terminator either. -/
theorem clean_of_cut {s : Text} (clean : 0 ∉ s) {before after : List Text}
    (cut : forms s = before ++ after) : 0 ∉ before.flatten ∧ 0 ∉ after.flatten := by
  rw [← forms_flatten s, cut, List.flatten_append, List.mem_append, not_or] at clean
  exact clean

/-! ## The loop -/

/-- The forms of `s` are cut as late as the loop allows: what is left with an ellipsis fits,
and one form more would not, or has no room in the buffer. -/
structure LongestCut (f : GsFont) (maxw : Int) (s : Text) (before after : List Text) : Prop where
  cut : forms s = before ++ after
  fits : before ≠ [] →
    textW f before.flatten + textW f ellipsis ≤ maxw ∧ before.dropLast.flatten.length < 160 - 8
  stops : ∀ next rest, after = next :: rest →
    160 - 8 ≤ before.flatten.length ∨
      maxw < textW f (before.flatten ++ next) + textW f ellipsis

section Loop

variable {f : GsFont} {maxw : Int} {s : Text}

/-- A string that is cut fits the buffer with room for the ellipsis. -/
theorem LongestCut.length_le {before after : List Text}
    (longest : LongestCut f maxw s before after) :
    before.flatten.length ≤ 155 := by
  rcases List.eq_nil_or_concat before with rfl | ⟨first, last, rfl⟩
  · exact Nat.zero_le _
  · obtain ⟨-, short⟩ := longest.fits (by simp)
    have cut := longest.cut
    rw [List.concat_eq_append, List.append_assoc, List.singleton_append] at cut
    obtain ⟨_, -, -, isForm⟩ := forms_eq_cons (forms_cut cut).2
    have := isForm.length_le_four
    rw [List.concat_eq_append, List.dropLast_concat] at short
    rw [List.concat_eq_append, List.flatten_append, List.length_append, List.flatten_singleton]
    omega

/-- The loop cuts as late as it may, and stays inside the buffer. -/
theorem fitLoop_longest (clean : 0 ∉ s) {before after : List Text} {fit : Fit}
    (cut : forms s = before ++ after) (tmp : fit.tmp = before.flatten)
    (fits : before ≠ [] → textW f before.flatten + textW f ellipsis ≤ maxw ∧
      before.dropLast.flatten.length < 160 - 8)
    (used : fit.used ≤ 156) :
    ∃ before' after', LongestCut f maxw s before' after' ∧
      (fitLoop f maxw fit after.flatten).tmp = before'.flatten ∧
      (fitLoop f maxw fit after.flatten).used ≤ 156 := by
  induction after generalizing before fit with
  | nil =>
      refine ⟨before, [], ⟨cut, fits, nofun⟩, ?_⟩
      rw [fitLoop, if_neg fun more => more.1 rfl]
      exact ⟨tmp, used⟩
  | cons form after ih =>
      obtain ⟨rest, text, onward, isForm⟩ := forms_eq_cons (forms_cut cut).2
      have same : rest = after.flatten := by rw [← onward, forms_flatten]
      subst same
      have inside : 0 ∉ form ++ after.flatten := text ▸ (clean_of_cut clean cut).2
      obtain ⟨some, behind⟩ := u8next_form isForm inside
      have four := isForm.length_le_four
      rw [text, fitLoop]
      by_cases room : fit.tmp.length < 160 - 8
      · rw [if_pos ⟨some, room⟩]
        have add : (form ++ after.flatten).length - after.flatten.length = form.length := by
          rw [List.length_append, Nat.add_sub_cancel]
        simp only [behind, add, List.take_left]
        rw [if_neg (by omega)]
        have grown : fit.tmp ++ form = (before ++ [form]).flatten := by
          rw [tmp, List.flatten_append, List.flatten_singleton]
        have used' : max fit.used ((fit.tmp ++ form).length + 1) ≤ 156 := by
          rw [List.length_append]
          omega
        split
        · next wide =>
            refine ⟨before, form :: after, ⟨cut, fits, ?_⟩, tmp, used'⟩
            rintro next rest' ⟨⟩
            exact .inr (tmp ▸ wide)
        · next narrow =>
            have cut' : forms s = (before ++ [form]) ++ after := by
              rw [cut, List.append_assoc, List.singleton_append]
            refine ih cut' grown (fun _ => ⟨?_, ?_⟩) used'
            · rw [← grown]
              exact not_lt.mp narrow
            · rw [List.dropLast_concat, ← tmp]
              exact room
      · rw [if_neg fun more => room more.2]
        refine ⟨before, form :: after, ⟨cut, fits, fun _ _ _ => .inl ?_⟩, tmp, used⟩
        rw [← tmp]
        exact not_lt.mp room

/-- A prefix made of whole forms is no wider than a longer one. -/
theorem textW_cut_le (f : GsFont) (clean : 0 ∉ s) {before between after : List Text}
    (cut : forms s = before ++ between ++ after) :
    textW f before.flatten ≤ textW f (before ++ between).flatten := by
  have longer : forms (before ++ between).flatten = before ++ between := (forms_cut cut).1
  have shorter : forms before.flatten = before := (forms_cut longer).1
  have clean' := (clean_of_cut clean cut).1
  rw [textW_eq f clean', textW_eq f (clean_of_cut clean' longer).1, longer, shorter]
  exact formsWidth_le_append f

/-- There is no later cut. -/
theorem LongestCut.not_later (clean : 0 ∉ s) {before after next more after' : List Text}
    {form : Text} (longest : LongestCut f maxw s before after)
    (later : LongestCut f maxw s (before ++ form :: more) after') (onward : after = form :: next) :
    False := by
  obtain ⟨narrow, short⟩ := later.fits (by simp)
  rcases longest.stops form next onward with full | wide
  · have inside : before.flatten.length ≤ (before ++ form :: more).dropLast.flatten.length := by
      rw [List.dropLast_append_of_ne_nil (List.cons_ne_nil _ _), List.flatten_append,
        List.length_append]
      exact Nat.le_add_right _ _
    omega
  · have cut : forms s = (before ++ [form]) ++ more ++ after' := by
      rw [later.cut, List.append_assoc, List.append_assoc, List.append_assoc,
        List.singleton_append, List.cons_append]
    have wider := textW_cut_le f clean cut
    rw [List.append_assoc, List.singleton_append, List.flatten_append, List.flatten_singleton]
      at wider
    omega

/-- There is only one place to cut. -/
theorem LongestCut.unique (clean : 0 ∉ s) {before after before' after' : List Text}
    (longest : LongestCut f maxw s before after) (longest' : LongestCut f maxw s before' after') :
    before = before' ∧ after = after' := by
  have both : before ++ after = before' ++ after' := longest.cut.symm.trans longest'.cut
  rcases List.append_eq_append_iff.mp both with ⟨between, rfl, rfl⟩ | ⟨between, rfl, rfl⟩
  · cases between with
    | nil => exact ⟨(List.append_nil _).symm, rfl⟩
    | cons form more => exact (longest.not_later clean longest' rfl).elim
  · cases between with
    | nil => exact ⟨List.append_nil _, rfl⟩
    | cons form more => exact (longest'.not_later clean longest rfl).elim

end Loop

/-! ## The seam -/

/-- The seam is too wide. The string is too wide itself, the cut is inside an unfinished
character (`lead` and what there is of its bytes, of which `inside` is before the cut), and the
lead byte, read on with the ellipsis, makes the text before it too wide. -/
structure SeamOverflow (f : GsFont) (maxw : Int) (s : Text) (before inside after : List Text)
    (lead : UInt8) : Prop where
  wide : maxw < textW f s
  cut : LongestCut f maxw s (before ++ [lead] :: inside) after
  finished : ∀ form ∈ before, Finished form
  unfinished : (inside ++ after).flatten.length < asks lead
  overflow : maxw < textW f before.flatten + textW f (lead :: inside.flatten ++ ellipsis)

section Seam

variable {f : GsFont} {maxw : Int} {s : Text}

/-- What the loop has measured has no form that spells zero: the rest would not count, and the
string would not be too wide. -/
theorem LongestCut.some (clean : 0 ∉ s) (wide : maxw < textW f s) {before after : List Text}
    (longest : LongestCut f maxw s before after) : ∀ form ∈ before, formValue form ≠ 0 := by
  intro form member zero
  obtain ⟨narrow, -⟩ := longest.fits (List.ne_nil_of_mem member)
  have same : textW f s = textW f before.flatten := by
    rw [textW_eq f clean, textW_eq f (clean_of_cut clean longest.cut).1,
      (forms_cut longest.cut).1, longest.cut]
    exact formsWidth_append_of_zero f member zero
  omega

/-- With the ellipsis the cut string has no terminator inside. -/
theorem LongestCut.clean (clean : 0 ∉ s) {before after : List Text}
    (longest : LongestCut f maxw s before after) : 0 ∉ before.flatten ++ ellipsis := by
  rw [List.mem_append, not_or]
  exact ⟨(clean_of_cut clean longest.cut).1, by decide⟩

/-- The width of the cut string with the ellipsis, when it ends in finished forms. -/
theorem LongestCut.textW_finished (clean : 0 ∉ s) (wide : maxw < textW f s)
    {before after : List Text} (longest : LongestCut f maxw s before after)
    (finished : ∀ form ∈ before, Finished form) (enough : textW f ellipsis ≤ maxw) :
    textW f (before.flatten ++ ellipsis) ≤ maxw := by
  rw [textW_append f (longest.clean clean) finished (longest.some clean wide)]
  by_cases empty : before = []
  · subst empty
    have none : textW f ([] : List Text).flatten = 0 := by
      rw [List.flatten_nil, textW_eq f (by simp), forms]
      rfl
    omega
  · exact_mod_cast (longest.fits empty).1

/-- The width of the cut string with the ellipsis, from any lead byte behind finished forms. -/
theorem LongestCut.textW_seam (clean : 0 ∉ s) (wide : maxw < textW f s)
    {before inside after : List Text} {lead : UInt8}
    (longest : LongestCut f maxw s (before ++ [lead] :: inside) after)
    (finished : ∀ form ∈ before, Finished form) :
    textW f ((before ++ [lead] :: inside).flatten ++ ellipsis) =
      textW f before.flatten + textW f (lead :: inside.flatten ++ ellipsis) := by
  have text : (before ++ [lead] :: inside).flatten ++ ellipsis =
      before.flatten ++ (lead :: inside.flatten ++ ellipsis) := by
    rw [List.flatten_append, List.flatten_cons, List.append_assoc, List.singleton_append]
  have clean' := longest.clean clean
  rw [text] at clean' ⊢
  exact textW_append f clean' finished fun form member =>
    longest.some clean wide form (List.mem_append_left _ member)

/-- The first form that is not finished. -/
theorem exists_first_unfinished {l : List Text} (some : ¬∀ form ∈ l, Finished form) :
    ∃ before form inside, l = before ++ form :: inside ∧ ¬Finished form ∧
      ∀ form ∈ before, Finished form := by
  induction l with
  | nil => exact absurd (fun _ member => nomatch member) some
  | cons first l ih =>
      by_cases finished : Finished first
      · rw [List.forall_mem_cons, not_and] at some
        obtain ⟨before, form, inside, rfl, unfinished, all⟩ := ih (some finished)
        refine ⟨first :: before, form, inside, rfl, unfinished, ?_⟩
        exact List.forall_mem_cons.mpr ⟨finished, all⟩
      · exact ⟨[], first, l, rfl, finished, nofun⟩

/-- A string that is too wide is cut, and the buffer has room for it. -/
theorem fitText_cut (clean : 0 ∉ s) (wide : maxw < textW f s) :
    ∃ before after, LongestCut f maxw s before after ∧
      fitText f maxw s = before.flatten ++ ellipsis ∧ (fitBuffer f maxw s).used ≤ 160 := by
  have narrow : ¬(textW f s : Int) ≤ maxw := not_le.mpr wide
  obtain ⟨before, after, longest, tmp, used⟩ :=
    @fitLoop_longest f maxw s clean [] (forms s) {} rfl rfl (fun some => absurd rfl some)
      (by decide)
  rw [forms_flatten] at tmp used
  have short := longest.length_le
  refine ⟨before, after, longest, ?_, ?_⟩
  · simp only [fitText, fitBuffer, narrow, ↓reduceIte, Fit.strcat, tmp]
  · simp only [fitBuffer, narrow, ↓reduceIte, Fit.strcat, tmp, ellipsis, List.length_cons,
      List.length_nil]
    omega

/-- What is drawn is too wide exactly when there is a seam that is too wide. -/
theorem fitText_width_iff (clean : 0 ∉ s) (enough : textW f ellipsis ≤ maxw) :
    textW f (fitText f maxw s) ≤ maxw ↔
      ¬∃ before inside after lead, SeamOverflow f maxw s before inside after lead := by
  by_cases narrow : textW f s ≤ maxw
  · simp only [fitText, narrow, ↓reduceIte, true_iff]
    rintro ⟨before, inside, after, lead, seam⟩
    exact not_lt.mpr narrow seam.wide
  have wide : maxw < textW f s := not_le.mp narrow
  obtain ⟨before, after, longest, drawn, -⟩ := fitText_cut clean wide
  rw [drawn]
  constructor
  · rintro fits ⟨before', inside, after', lead, seam⟩
    obtain ⟨rfl, rfl⟩ := longest.unique clean seam.cut
    have width := longest.textW_seam clean wide seam.finished
    have overflow := seam.overflow
    omega
  · intro noSeam
    by_cases finished : ∀ form ∈ before, Finished form
    · exact longest.textW_finished clean wide finished enough
    · obtain ⟨before', form, inside, rfl, unfinished, finished'⟩ :=
        exists_first_unfinished finished
      have cut := longest.cut
      rw [List.append_assoc, List.cons_append] at cut
      obtain ⟨lead, rfl, few⟩ := forms_unfinished cut unfinished
      by_contra overflow
      refine noSeam ⟨before', inside, after, lead, wide, longest, finished', few, ?_⟩
      have width := longest.textW_seam clean wide finished'
      omega

/-- **`draw_text_fit`.** For any font and any string, and a width that has room for the
ellipsis, it draws the string itself or a prefix of it with the ellipsis and stays inside its
buffer; and what it draws is at most as wide as asked exactly when there is no seam that is too
wide. -/
theorem fit_iff (clean : 0 ∉ s) (enough : textW f ellipsis ≤ maxw) :
    (fitText f maxw s = s ∨ ∃ t, t <+: s ∧ fitText f maxw s = t ++ ellipsis) ∧
      (fitBuffer f maxw s).used ≤ 160 ∧
      (textW f (fitText f maxw s) ≤ maxw ↔
        ¬∃ before inside after lead, SeamOverflow f maxw s before inside after lead) := by
  refine ⟨?_, ?_, fitText_width_iff clean enough⟩
  · by_cases narrow : textW f s ≤ maxw
    · exact .inl (if_pos narrow)
    · obtain ⟨before, after, longest, drawn, -⟩ := fitText_cut clean (not_le.mp narrow)
      refine .inr ⟨before.flatten, ?_, drawn⟩
      rw [← forms_flatten s, longest.cut, List.flatten_append]
      exact List.prefix_append _ _
  · by_cases narrow : textW f s ≤ maxw
    · simp only [fitBuffer, narrow, ↓reduceIte, Nat.zero_le]
    · obtain ⟨-, -, -, -, used⟩ := fitText_cut clean (not_le.mp narrow)
      exact used

/-- A string of finished forms always fits: there is no seam. -/
theorem fit_of_finished (clean : 0 ∉ s) (enough : textW f ellipsis ≤ maxw)
    (finished : ∀ form ∈ forms s, Finished form) : textW f (fitText f maxw s) ≤ maxw := by
  rw [fitText_width_iff clean enough]
  rintro ⟨before, inside, after, lead, seam⟩
  have alone : Finished [lead] := finished [lead] (by rw [seam.cut.cut]; simp)
  have few := seam.unfinished
  have none : 0 = asks lead := alone
  omega

/-- The forms of encoded characters are finished. -/
theorem encode_finished {chars : List Char} (some : ∀ c ∈ chars, c.val ≠ 0) :
    ∀ form ∈ forms (encode chars), Finished form := by
  induction chars with
  | nil => simp [encode, forms]
  | cons c chars ih =>
      obtain ⟨b, rest, encoded, -, -, length⟩ := utf8EncodeChar_form (some c List.mem_cons_self)
      have finished : Finished (b :: rest) := by
        have here := length rest.length le_rfl
        have later := length (rest.length + 3) (Nat.le_add_right _ _)
        have := asks_le_three b
        rw [formLength_eq] at here later
        rw [if_pos (by omega)] at later
        exact (Nat.add_right_cancel later).symm
      have split : encode (c :: chars) = (b :: rest) ++ encode chars := by
        rw [encode, List.flatMap_cons, encoded]
        rfl
      rw [split, forms_append_form (finished.isForm _), List.forall_mem_cons]
      exact ⟨finished, ih fun c member => some c (List.mem_cons_of_mem _ member)⟩

/-- **Whole characters always fit.** -/
theorem fit_encode {chars : List Char} (some : ∀ c ∈ chars, c.val ≠ 0)
    (enough : textW f ellipsis ≤ maxw) : textW f (fitText f maxw (encode chars)) ≤ maxw :=
  fit_of_finished (encode_clean some) enough (encode_finished some)

end Seam

/-- A font with a narrow question mark, a narrow ellipsis and nothing else. -/
def narrowFont : GsFont := ⟨100, [⟨63, 1, 1, 1, 0, 0, 0⟩, ⟨8230, 1, 1, 1, 0, 0, 0⟩], [255]⟩

/-- The first bytes of a character of four, cut by a buffer. -/
def cutName : Text := [0xf0, 0x9f, 0x98]

/-- The widths of some strings in this font. -/
theorem narrowFont_widths :
    textW narrowFont ellipsis = 1 ∧ textW narrowFont cutName = 3 ∧
      textW narrowFont [0xf0] = 1 ∧ textW narrowFont [0xf0, 0x9f] = 2 ∧
      textW narrowFont (0xf0 :: ellipsis) = 50 := by
  have missing : narrowFont.findG 0x22026 = none :=
    (GsFont.findG_eq_none_iff _ _).mpr (by decide)
  have mark : narrowFont.advance 63 = 1 := by
    simp [GsFont.advance, GsFont.findG, GsFont.bisect, narrowFont]
  have dots : narrowFont.advance 8230 = 1 := by
    simp [GsFont.advance, GsFont.findG, GsFont.bisect, narrowFont]
  have seam : narrowFont.advance 0x22026 = 50 := by
    simp only [GsFont.advance, missing]
    rfl
  refine ⟨?_, ?_, ?_, ?_, ?_⟩ <;> rw [textW_eq _ (by decide)] <;>
    simp [ellipsis, cutName, forms, formLength, formValue, formWidth, mark, dots, seam]

/-- Where the name is cut. -/
theorem cutName_cut : LongestCut narrowFont 2 cutName ([] ++ [[0xf0]]) [[0x9f], [0x98]] where
  cut := by simp [cutName, forms, formLength]
  fits _ := by
    obtain ⟨dots, -, one, -, -⟩ := narrowFont_widths
    simp [dots, one]
  stops := by
    obtain ⟨dots, -, -, two, -⟩ := narrowFont_widths
    rintro next rest ⟨⟩
    right
    simp [dots, two]

/-- What is left ends in a lead byte that takes the ellipsis for its bytes. -/
theorem cutName_seam : SeamOverflow narrowFont 2 cutName [] [] [[0x9f], [0x98]] 0xf0 where
  wide := by
    obtain ⟨-, three, -, -, -⟩ := narrowFont_widths
    omega
  cut := cutName_cut
  finished := nofun
  unfinished := by decide
  overflow := by
    obtain ⟨-, -, -, -, fifty⟩ := narrowFont_widths
    rw [List.flatten_nil, List.cons_append, List.nil_append]
    omega

/-- What is drawn of the name is too wide. -/
theorem fit_iff_cutName :
    (fitBuffer narrowFont 2 cutName).used ≤ 160 ∧
      (textW narrowFont (fitText narrowFont 2 cutName) ≤ (2 : Int) ↔
        ¬∃ before inside after lead,
          SeamOverflow narrowFont 2 cutName before inside after lead) :=
  (fit_iff (by decide) (by rw [narrowFont_widths.1]; decide)).2

/-- So what `draw_text_fit` draws is not always narrow enough. -/
theorem cutName_too_wide :
    ¬∀ (f : GsFont) (maxw : Int) (s : Text), 0 ∉ s → textW f ellipsis ≤ maxw →
      textW f (fitText f maxw s) ≤ maxw := by
  intro always
  have clean : (0 : UInt8) ∉ cutName := by decide
  have enough : textW narrowFont ellipsis ≤ (2 : Int) := by
    rw [narrowFont_widths.1]
    decide
  exact (fitText_width_iff clean enough).mp (always narrowFont 2 cutName clean enough)
    ⟨_, _, _, _, cutName_seam⟩

end Ginkgo
