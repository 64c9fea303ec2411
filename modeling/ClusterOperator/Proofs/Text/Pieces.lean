import ClusterOperator.Text.Basic

namespace ClusterOperator.Text

variable {cut : Char → Bool} {text piece : List Char}

theorem cutAt_eq_splitOnP (cut : Char → Bool) (text : List Char) :
    cutAt cut text = text.splitOnP cut := by
  induction text with
  | nil => rfl
  | cons c rest ih =>
      rw [cutAt, List.splitOnP_cons_eq_if_modifyHead, ih]
      split
      · rfl
      · cases hpieces : rest.splitOnP cut with
        | nil => exact absurd hpieces (List.splitOnP_ne_nil cut rest)
        | cons piece pieces => rfl

theorem cutAt_append_cons (front back : List Char) {c : Char} (h : cut c = true) :
    cutAt cut (front ++ c :: back) = cutAt cut front ++ cutAt cut back := by
  simp only [cutAt_eq_splitOnP]
  exact List.splitOnP_append_cons front back h

theorem cutAt_of_uncut (h : ∀ c ∈ text, cut c = false) : cutAt cut text = [text] := by
  rw [cutAt_eq_splitOnP]
  exact List.splitOnP_eq_singleton h

@[elab_as_elim]
theorem cut_induction (cut : Char → Bool) {motive : List Char → Prop}
    (uncut : ∀ text, (∀ c ∈ text, cut c = false) → motive text)
    (split : ∀ front c back, cut c = true → motive front → motive back →
      motive (front ++ c :: back)) (text : List Char) : motive text := by
  by_cases hcut : ∃ c ∈ text, cut c = true
  · obtain ⟨c, hc, htrue⟩ := hcut
    obtain ⟨front, back, rfl⟩ := List.append_of_mem hc
    exact split front c back htrue (cut_induction cut uncut split front)
      (cut_induction cut uncut split back)
  · apply uncut
    intro c hc
    exact Bool.eq_false_iff.mpr fun htrue => hcut ⟨c, hc, htrue⟩
termination_by text.length
decreasing_by all_goals grind

theorem mem_of_mem_cutAt (cut : Char → Bool) {c : Char} (h : c ∈ text) :
    cut c ∨ ∃ piece ∈ cutAt cut text, c ∈ piece := by
  induction text using cut_induction cut with
  | uncut text huncut =>
      rw [cutAt_of_uncut huncut]
      exact .inr ⟨text, List.mem_singleton_self text, h⟩
  | split front sep back hsep hfront hback =>
      rw [cutAt_append_cons front back hsep]
      rcases List.mem_append.mp h with hmem | hmem
      · refine (hfront hmem).imp_right ?_
        rintro ⟨piece, hpiece, hc⟩
        exact ⟨piece, List.mem_append_left _ hpiece, hc⟩
      · rcases List.mem_cons.mp hmem with rfl | hmem
        · exact .inl hsep
        · refine (hback hmem).imp_right ?_
          rintro ⟨piece, hpiece, hc⟩
          exact ⟨piece, List.mem_append_right _ hpiece, hc⟩

theorem mem_and_uncut_of_mem_cutAt (h : piece ∈ cutAt cut text) :
    ∀ c ∈ piece, c ∈ text ∧ cut c = false := by
  induction text using cut_induction cut with
  | uncut text huncut =>
      rw [cutAt_of_uncut huncut, List.mem_singleton] at h
      subst h
      exact fun c hc => ⟨hc, huncut c hc⟩
  | split front sep back hsep hfront hback =>
      rw [cutAt_append_cons front back hsep] at h
      intro c hc
      rcases List.mem_append.mp h with hpiece | hpiece
      · obtain ⟨hmem, hfalse⟩ := hfront hpiece c hc
        exact ⟨List.mem_append_left _ hmem, hfalse⟩
      · obtain ⟨hmem, hfalse⟩ := hback hpiece c hc
        exact ⟨List.mem_append_right _ (List.mem_cons_of_mem sep hmem), hfalse⟩

/-- Whether a change of texts changes the pieces between cuts one by one. -/
structure Piecewise (cut : Char → Bool) (f : List Char → List Char) : Prop where
  split : ∀ front c back, cut c = true → f (front ++ c :: back) = f front ++ c :: f back
  uncut : ∀ text, (∀ c ∈ text, cut c = false) → ∀ c ∈ f text, cut c = false

namespace Piecewise

variable {f g : List Char → List Char}

theorem cutAt_eq (h : Piecewise cut f) (text : List Char) :
    cutAt cut (f text) = (cutAt cut text).map f := by
  induction text using cut_induction cut with
  | uncut text huncut =>
      rw [cutAt_of_uncut huncut, cutAt_of_uncut (h.uncut text huncut), List.map_singleton]
  | split front sep back hsep hfront hback =>
      rw [h.split front sep back hsep, cutAt_append_cons _ _ hsep, cutAt_append_cons _ _ hsep, hfront,
        hback, List.map_append]

theorem comp (hf : Piecewise cut f) (hg : Piecewise cut g) : Piecewise cut fun text => g (f text) where
  split := fun front c back hc => by rw [hf.split front c back hc, hg.split _ c _ hc]
  uncut := fun text huncut => hg.uncut _ (hf.uncut text huncut)

theorem map {g : Char → Char} (hcut : ∀ c, cut (g c) = cut c) (hfixed : ∀ c, cut c = true → g c = c) :
    Piecewise cut (List.map g) where
  split := fun front c back hc => by rw [List.map_append, List.map_cons, hfixed c hc]
  uncut := by
    intro text huncut c hc
    obtain ⟨d, hd, rfl⟩ := List.mem_map.mp hc
    rw [hcut]
    exact huncut d hd

theorem eq_singleton_iff (h : Piecewise cut f) (hempty : ∀ text, f text = [] ↔ text = []) {c : Char}
    (hc : cut c = true) : f text = [c] ↔ text = [c] := by
  have hnil : f [] = [] := (hempty []).mpr rfl
  constructor
  · intro hsingle
    induction text using cut_induction cut with
    | uncut text huncut =>
        have hfalse := h.uncut text huncut c (hsingle ▸ List.mem_singleton_self c)
        rw [hc] at hfalse
        contradiction
    | split front sep back hsep _ _ =>
        rw [h.split front sep back hsep, List.append_eq_singleton_iff] at hsingle
        rcases hsingle with ⟨hfront, hback⟩ | ⟨-, hback⟩
        · obtain ⟨rfl, hrest⟩ := List.cons.inj hback
          rw [(hempty front).mp hfront, (hempty back).mp hrest, List.nil_append]
        · contradiction
  · rintro rfl
    have hsplit := h.split [] c [] hc
    rwa [hnil] at hsplit

theorem words_eq (h : Piecewise isBlank f) (hempty : ∀ text, f text = [] ↔ text = [])
    (text : List Char) : words (f text) = (words text).map f := by
  rw [words, words, h.cutAt_eq, List.filter_map]
  congr 2
  funext piece
  have hsame : (f piece).isEmpty = piece.isEmpty := by
    rw [Bool.eq_iff_iff, List.isEmpty_iff, List.isEmpty_iff]
    exact hempty piece
  rw [Function.comp_apply, hsame]

end Piecewise

theorem dropWhile_of_uncut (h : ∀ c ∈ text, cut c = false) : text.dropWhile cut = text := by
  cases text with
  | nil => rfl
  | cons c rest =>
      apply List.dropWhile_cons_of_neg
      rw [h c List.mem_cons_self]
      nofun

theorem trim_of_uncut (h : ∀ c ∈ text, isBlank c = false) : trim text = text := by
  have hreverse : ∀ c ∈ text.reverse, isBlank c = false := fun c hc =>
    h c (List.mem_reverse.mp hc)
  rw [trim, dropWhile_of_uncut h, dropWhile_of_uncut hreverse, List.reverse_reverse]

end ClusterOperator.Text
