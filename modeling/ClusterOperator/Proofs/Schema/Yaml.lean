import ClusterOperator.Schema.Yaml

namespace ClusterOperator.Yaml

section Statement

def isPrinted (c : Char) : Bool :=
  ' ' ≤ c && c ≤ '~'

/-- Characters that mean something at the beginning of a scalar. -/
def indicators : List Char :=
  " -?:,[]\x7b\x7d#&*!|>'\"%@`".toList

def words : List String :=
  ["~", "null", "Null", "NULL", "true", "True", "TRUE", "false", "False", "FALSE",
    ".nan", ".NaN", ".NAN", ".inf", ".Inf", ".INF"]

/-- Every number has a digit, and no characters but these. -/
def MayBeNumber (text : List Char) : Prop :=
  (∃ c ∈ text, c.isDigit = true) ∧
    ∀ c ∈ text, c.isDigit = true ∨ c ∈ "+-.eEoxabcdfABCDF_".toList

/-- Scalars that stand for themselves as texts: in them is neither a key nor a comment, and they are
neither words nor numbers. -/
structure IsPlainText (text : List Char) : Prop where
  first : ∃ c rest, text = c :: rest ∧ c ∉ indicators
  printed : ∀ c ∈ text, isPrinted c
  unkeyed : ¬[':', ' '] <:+: text ∧ text.getLast? ≠ some ':'
  uncommented : ¬[' ', '#'] <:+: text ∧ text.getLast? ≠ some ' '
  word : String.ofList text ∉ words
  number : ¬MayBeNumber text

/-- What stands between single quotes, where a quote is written twice, and the text that it is. -/
inductive Quotes : List Char → List Char → Prop
  | nil : Quotes [] []
  | quote {body text} (h : Quotes body text) : Quotes ('\'' :: '\'' :: body) ('\'' :: text)
  | other {c body text} (hc : c ≠ '\'') (hprinted : isPrinted c) (h : Quotes body text) :
      Quotes (c :: body) (c :: text)

/-- What is on one line and a value by itself. -/
inductive Word : String → Json → Prop
  | null : Word "null" .null
  | true : Word "true" (.bool true)
  | false : Word "false" (.bool false)
  | int (n : Int) : Word (toString n) (.int n)
  | plain {text : String} (h : IsPlainText text.toList) : Word text (.str text)
  | quoted {body : List Char} {text : String} (h : Quotes body text.toList) :
      Word (String.ofList ('\'' :: body ++ ['\''])) (.str text)
  | noItems : Word "[]" (.arr [])
  | noMembers : Word "\x7b\x7d" (.obj [])

mutual

/-- Lines that are a value. -/
inductive Block : List String → Json → Prop
  | word {line value} (h : Word line value) : Block [line] value
  | mapping {lines members} (h : Mapping lines members) (hmembers : members ≠ [])
      (hdistinct : (members.map Prod.fst).Nodup) : Block lines (.obj members)
  | sequence {lines items} (h : Sequence lines items) (hitems : items ≠ []) :
      Block lines (.arr items)

/-- Lines that are members one below the other. A value stands beside its key, or below it: members are
indented, items are not. -/
inductive Mapping : List String → List (String × Json) → Prop
  | nil : Mapping [] []
  | beside {word line key value lines members} (hkey : Word word (.str key)) (hvalue : Word line value)
      (h : Mapping lines members) : Mapping ((word ++ ": " ++ line) :: lines) ((key, value) :: members)
  | members {word key below value lines members} (hkey : Word word (.str key))
      (hvalue : Mapping below value) (hnonempty : value ≠ [])
      (hdistinct : (value.map Prod.fst).Nodup) (h : Mapping lines members) :
      Mapping ((word ++ ":") :: below.map ("  " ++ ·) ++ lines) ((key, .obj value) :: members)
  | items {word key below value lines members} (hkey : Word word (.str key))
      (hvalue : Sequence below value) (hnonempty : value ≠ []) (h : Mapping lines members) :
      Mapping ((word ++ ":") :: below ++ lines) ((key, .arr value) :: members)

/-- Lines that are items one below the other, each behind a hyphen. -/
inductive Sequence : List String → List Json → Prop
  | nil : Sequence [] []
  | item {first below value lines items} (hvalue : Block (first :: below) value)
      (h : Sequence lines items) :
      Sequence (("- " ++ first) :: below.map ("  " ++ ·) ++ lines) (value :: items)

end

/-- Documents one after the other. -/
inductive Stream : String → List Json → Prop
  | nil : Stream "" []
  | document {lines value text documents} (hvalue : Block lines value) (h : Stream text documents) :
      Stream ("---\n" ++ String.join (lines.map (· ++ "\n")) ++ text) (value :: documents)

end Statement

mutual

/-- Whether all texts in a value are printed as they are, and there are no floating-point numbers. -/
def isPrintable : Json → Bool
  | .null => true
  | .bool _ => true
  | .int _ => true
  | .float _ _ => false
  | .str text => text.toList.all isPrinted
  | .arr items => arePrintable items
  | .obj members => (members.map Prod.fst).Nodup && arePrintableMembers members

def arePrintable : List Json → Bool
  | [] => true
  | item :: items => isPrintable item && arePrintable items

def arePrintableMembers : List (String × Json) → Bool
  | [] => true
  | (key, value) :: members =>
      key.toList.all isPrinted && isPrintable value && arePrintableMembers members

end

section Scalars

theorem pair_infix_cons_cons_iff {a b c d : Char} {rest : List Char} :
    [a, b] <:+: c :: d :: rest ↔ (a = c ∧ b = d) ∨ [a, b] <:+: d :: rest := by
  rw [List.infix_cons_iff, List.cons_prefix_cons, List.cons_prefix_cons]
  simp only [List.nil_prefix, and_true]

/-- No two characters of a safe text begin a comment or end a key, and no character does so at its end. -/
theorem isSafeAfter_iff (c : Char) (rest : List Char) : isSafeAfter c rest = true ↔
    (¬[':', ' '] <:+: c :: rest ∧ (c :: rest).getLast? ≠ some ':') ∧
      ¬[' ', '#'] <:+: c :: rest ∧ (c :: rest).getLast? ≠ some ' ' := by
  induction rest generalizing c with
  | nil => simp [isSafeAfter, List.infix_cons_iff]
  | cons d rest ih =>
      rw [pair_infix_cons_cons_iff, pair_infix_cons_cons_iff, List.getLast?_cons_cons]
      simp only [isSafeAfter, Bool.and_eq_true, Bool.not_eq_true', ih]
      grind

theorem not_isPlain_word : ∀ word ∈ words, isPlain word = false := by
  decide +kernel

theorem isPlainText_of_isPlain {text : String} (h : isPlain text = true) :
    IsPlainText text.toList := by
  have hword : text ∉ words := by
    intro hmem
    rw [not_isPlain_word text hmem] at h
    cases h
  unfold isPlain at h
  split at h
  · cases h
  · rename_i c rest htext
    simp only [Bool.and_eq_true] at h
    obtain ⟨⟨⟨⟨hfirst, hprinted⟩, hsafe⟩, -⟩, hnumber⟩ := h
    obtain ⟨hkey, hcomment⟩ := (isSafeAfter_iff c rest).mp hsafe
    rw [htext]
    refine ⟨⟨c, rest, rfl, ?_⟩, ?_, hkey, hcomment, ?_, ?_⟩
    · have hindicators : indicators.all (fun d => !(d.isAlphanum || d = '.' || d = '/')) := by
        decide
      intro hmem
      have hrefused := List.all_eq_true.mp hindicators c hmem
      rw [hfirst] at hrefused
      cases hrefused
    · exact List.all_eq_true.mp hprinted
    · rwa [← htext, String.ofList_toList]
    · rintro ⟨⟨d, hd, hdigit⟩, hall⟩
      have hreads : readsAsNumber (c :: rest) = true := by
        simp only [readsAsNumber, Bool.and_eq_true, List.any_eq_true, List.all_eq_true]
        refine ⟨⟨d, hd, hdigit⟩, fun e he => ?_⟩
        simpa using hall e he
      rw [hreads] at hnumber
      cases hnumber

theorem quotes_flatMap {text : List Char} (h : ∀ c ∈ text, isPrinted c = true) :
    Quotes (text.flatMap fun c => if c = '\'' then ['\'', '\''] else [c]) text := by
  induction text with
  | nil => exact .nil
  | cons c text ih =>
      rw [List.forall_mem_cons] at h
      rw [List.flatMap_cons]
      by_cases hc : c = '\''
      · subst hc
        exact .quote (ih h.2)
      · rw [if_neg hc]
        exact .other hc h.1 (ih h.2)

theorem word_scalar {text : String} (h : text.toList.all isPrinted = true) :
    Word (scalar text) (.str text) := by
  rw [scalar]
  split
  · exact .plain (isPlainText_of_isPlain ‹_›)
  · exact .quoted (quotes_flatMap (List.all_eq_true.mp h))

end Scalars

section Blocks

variable {value : Json}

theorem Block.ne_nil {block : List String} (h : Block block value) : block ≠ [] := by
  cases h with
  | word _ => exact List.cons_ne_nil _ _
  | mapping h hmembers =>
      cases h with
      | nil => exact absurd rfl hmembers
      | _ => exact List.cons_ne_nil _ _
  | sequence h hitems =>
      cases h with
      | nil => exact absurd rfl hitems
      | item _ _ => exact List.cons_ne_nil _ _

theorem Sequence.bullet {block lines : List String} {items : List Json} (hvalue : Block block value)
    (h : Sequence lines items) : Sequence (Yaml.bullet block ++ lines) (value :: items) := by
  obtain ⟨first, below, rfl⟩ := List.exists_cons_of_ne_nil hvalue.ne_nil
  exact .item hvalue h

theorem Mapping.attach {word key : String} {block lines : List String}
    {members : List (String × Json)} (hkey : Word word (.str key)) (hvalue : Block block value)
    (h : Mapping lines members) :
    Mapping (Yaml.attach word value block ++ lines) ((key, value) :: members) := by
  cases hvalue with
  | @word line _ hword =>
      have hattach : Yaml.attach word value [line] = [word ++ ": " ++ line] := by
        cases hword <;> rfl
      rw [hattach]
      exact .beside hkey hword h
  | @mapping _ below hmapping hbelow hdistinct =>
      obtain ⟨member, rest, rfl⟩ := List.exists_cons_of_ne_nil hbelow
      exact .members hkey hmapping hbelow hdistinct h
  | @sequence _ items hsequence hitems =>
      obtain ⟨item, rest, rfl⟩ := List.exists_cons_of_ne_nil hitems
      exact .items hkey hsequence hitems h

mutual

theorem block_lines : (value : Json) → isPrintable value = true → Block (lines value) value
  | .null, _ => .word .null
  | .bool true, _ => .word .true
  | .bool false, _ => .word .false
  | .int n, _ => .word (.int n)
  | .float _ _, h => by cases h
  | .str _, h => .word (word_scalar h)
  | .arr [], _ => .word .noItems
  | .arr (item :: items), h => by
      have hsequence := sequence_itemLines (item :: items) h
      rw [itemLines] at hsequence
      rw [lines]
      exact .sequence hsequence (List.cons_ne_nil _ _)
  | .obj [], _ => .word .noMembers
  | .obj ((key, value) :: members), h => by
      rw [isPrintable, Bool.and_eq_true, decide_eq_true_eq] at h
      have hmapping := mapping_memberLines ((key, value) :: members) h.2
      rw [memberLines] at hmapping
      rw [lines]
      exact .mapping hmapping (List.cons_ne_nil _ _) h.1

theorem sequence_itemLines :
    (items : List Json) → arePrintable items = true → Sequence (itemLines items) items
  | [], _ => .nil
  | item :: items, h => by
      rw [arePrintable, Bool.and_eq_true] at h
      rw [itemLines]
      exact (sequence_itemLines items h.2).bullet (block_lines item h.1)

theorem mapping_memberLines : (members : List (String × Json)) →
    arePrintableMembers members = true → Mapping (memberLines members) members
  | [], _ => .nil
  | (key, value) :: members, h => by
      rw [arePrintableMembers, Bool.and_eq_true, Bool.and_eq_true] at h
      rw [memberLines]
      exact (mapping_memberLines members h.2).attach (word_scalar h.1.1) (block_lines value h.1.2)

end

theorem stream_documents {values : List Json} (h : ∀ value ∈ values, isPrintable value = true) :
    Stream (String.join (values.map document)) values := by
  induction values with
  | nil => exact .nil
  | cons value values ih =>
      rw [List.forall_mem_cons] at h
      rw [List.map_cons, String.join_cons, document]
      exact .document (block_lines value h.1) (ih h.2)

end Blocks

end ClusterOperator.Yaml
