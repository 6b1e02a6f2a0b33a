/-
  ErrorBudget.Proofs.RuleFile.Stream

  Manifests in one text. A text that is cut at its marks, which are the lines of three dashes,
  gives back the documents that were put together, if none of these has a line that starts
  with three dashes and each ends its last line. Of the texts that manifests are written as no
  line starts with a dash, whatever the names, expressions, labels and annotations are.
-/
import ErrorBudget.Proofs.Yaml.Lines
import ErrorBudget.RuleFile.Layout

namespace ErrorBudget

/-! ## Lines of a text -/

namespace Text

variable {p : Char → Bool}

/-- The lines of a text, each with its end, which is a character for which `p` holds. Only the
    last one may have none. -/
def linesOf (p : Char → Bool) : List Char → List (List Char)
  | [] => []
  | c :: cs =>
    if p c then [c] :: linesOf p cs
    else (c :: (linesOf p cs).headD []) :: (linesOf p cs).tail

theorem linesOf_cons_of_pos {c : Char} (h : p c = true) (cs : List Char) :
    linesOf p (c :: cs) = [c] :: linesOf p cs := by
  rw [linesOf, if_pos h]

theorem linesOf_cons_of_neg {c : Char} (h : ¬ p c = true) (cs : List Char) :
    linesOf p (c :: cs) = (c :: (linesOf p cs).headD []) :: (linesOf p cs).tail := by
  rw [linesOf, if_neg h]

theorem flatten_linesOf (p : Char → Bool) (cs : List Char) : (linesOf p cs).flatten = cs := by
  induction cs with
  | nil => rfl
  | cons c cs ih =>
    by_cases ends : p c = true
    · rw [linesOf_cons_of_pos ends, List.flatten_cons, ih, List.singleton_append]
    · have joined : (linesOf p cs).headD [] ++ (linesOf p cs).tail.flatten = cs := by
        cases lines : linesOf p cs with
        | nil =>
          rw [lines] at ih
          exact ih
        | cons l ls =>
          rw [lines] at ih
          exact ih
      rw [linesOf_cons_of_neg ends, List.flatten_cons, List.cons_append, joined]

/-- What comes after the end of a line starts a line. -/
theorem linesOf_append {as : List Char} (h : as.getLast?.all p = true) (bs : List Char) :
    linesOf p (as ++ bs) = linesOf p as ++ linesOf p bs := by
  induction as with
  | nil => rfl
  | cons c cs ih =>
    rw [List.cons_append]
    cases cs with
    | nil =>
      have ends : p c = true := h
      rw [List.nil_append, linesOf_cons_of_pos ends, linesOf_cons_of_pos ends]
      rfl
    | cons d cs =>
      have last : (d :: cs).getLast?.all p = true := by
        rwa [List.getLast?_cons_cons] at h
      have apart := ih last
      by_cases ends : p c = true
      · rw [linesOf_cons_of_pos ends, linesOf_cons_of_pos ends, apart, List.cons_append]
      · obtain ⟨l, ls, lines⟩ : ∃ l ls, linesOf p (d :: cs) = l :: ls := by
          rw [linesOf]
          split
          · exact ⟨_, _, rfl⟩
          · exact ⟨_, _, rfl⟩
        rw [linesOf_cons_of_neg ends, linesOf_cons_of_neg ends, apart, lines]
        rfl

/-- The first line starts as the text does. -/
theorem head?_of_mem_linesOf {cs line : List Char} (h : line ∈ linesOf p cs) :
    line.head? = cs.head? ∨ line ∈ (linesOf p cs).tail := by
  cases cs with
  | nil => cases h
  | cons c cs =>
    by_cases ends : p c = true
    · rw [linesOf_cons_of_pos ends] at h ⊢
      rcases List.mem_cons.1 h with rfl | later
      · exact .inl rfl
      · exact .inr later
    · rw [linesOf_cons_of_neg ends] at h ⊢
      rcases List.mem_cons.1 h with rfl | later
      · exact .inl rfl
      · exact .inr later

end Text

open Text (linesOf)

namespace Yaml

open Written (isLineEnd)

variable {p : Char → Bool}

/-- The lines after the first start where a line has ended. -/
theorem Indented.tail_linesOf {cs : List Char} (h : Indented cs)
    (ends : ∀ c, p c = true → isLineEnd c = true) :
    ∀ line ∈ (linesOf p cs).tail, line.head? ≠ some '-' := by
  induction cs with
  | nil => exact fun _ h => (nomatch h)
  | cons c cs ih =>
    obtain ⟨next, later⟩ := List.isChain_cons.1 h
    by_cases here : p c = true
    · rw [Text.linesOf_cons_of_pos here, List.tail_cons]
      intro line listed
      rcases Text.head?_of_mem_linesOf listed with first | listed
      · rw [first]
        intro dash
        exact next '-' dash (ends c here) rfl
      · exact ih later line listed
    · rw [Text.linesOf_cons_of_neg here, List.tail_cons]
      exact ih later

theorem WholeLines.head?_ne_dash {cs : List Char} (h : WholeLines cs)
    (ends : ∀ c, p c = true → isLineEnd c = true) :
    ∀ line ∈ linesOf p cs, line.head? ≠ some '-' := by
  intro line listed
  rcases Text.head?_of_mem_linesOf listed with first | later
  · rw [first]
    exact h.no_dash
  · exact h.indented.tail_linesOf ends line later

end Yaml

namespace Manifest

/-! ## Cutting at the marks -/

/-- Three dashes, as they stand on the lines between documents. -/
def dashes : List Char := ['-', '-', '-']

/-- A line that has three dashes and nothing else before its end. -/
def isMark (p : Char → Bool) (line : List Char) : Bool :=
  line.takeWhile (!p ·) = dashes

/-- What stands between the marks of a text. -/
def documents (p : Char → Bool) (text : String) : List String :=
  ((linesOf p text.toList).splitOnP (isMark p)).map fun lines => String.ofList lines.flatten

/-- A text that has lines, each with its end, of which none starts with three dashes. -/
structure IsDocument (p : Char → Bool) (text : String) : Prop where
  ended : text.toList.getLast?.any p = true
  unmarked : ∀ line ∈ linesOf p text.toList, ¬ dashes <+: line

/-- The text is empty if there are no parts, and otherwise the parts are what stands between
    its marks. -/
structure CutsBack (p : Char → Bool) (text : String) (parts : List String) : Prop where
  empty_iff : text = "" ↔ parts = []
  documents_eq : parts ≠ [] → documents p text = parts

variable {p : Char → Bool}

theorem IsDocument.ne_empty {text : String} (h : IsDocument p text) : text ≠ "" := by
  rintro rfl
  have ended := h.ended
  cases ended

theorem IsDocument.last {text : String} (h : IsDocument p text) :
    text.toList.getLast?.all p = true := by
  have ended := h.ended
  cases last : text.toList.getLast? with
  | none => rfl
  | some c =>
    rw [last] at ended
    exact ended

theorem IsDocument.not_isMark {text : String} (h : IsDocument p text) :
    ∀ line ∈ linesOf p text.toList, isMark p line = false := by
  intro line listed
  refine Bool.eq_false_iff.2 fun mark => h.unmarked line listed ?_
  rw [← of_decide_eq_true mark]
  exact List.takeWhile_prefix _

theorem documents_of_isDocument {text : String} (h : IsDocument p text) :
    documents p text = [text] := by
  rw [documents, List.splitOnP_eq_singleton h.not_isMark, List.map_singleton,
    Text.flatten_linesOf, String.ofList_toList]

theorem stream_cons_cons (t u : String) (ts : List String) :
    stream (t :: u :: ts) = t ++ separator ++ stream (u :: ts) :=
  String.intercalate_cons_cons

/-- The first mark is the one after the first document. -/
theorem documents_append {text : String} (h : IsDocument p text) (feed : p '\n' = true)
    (dash : p '-' = false) (rest : String) :
    documents p (text ++ separator ++ rest) = text :: documents p rest := by
  have mark : linesOf p separator.toList = [separator.toList] := by
    simp [separator, linesOf, feed, dash]
  have isMark_separator : isMark p separator.toList = true := by
    simp [isMark, separator, dashes, feed, dash]
  have newline : separator.toList.getLast?.all p = true := by
    simp [separator, feed]
  have lines : linesOf p (text ++ separator ++ rest).toList =
      linesOf p text.toList ++ separator.toList :: linesOf p rest.toList := by
    rw [String.toList_append, String.toList_append, List.append_assoc,
      Text.linesOf_append h.last, Text.linesOf_append newline, mark, List.singleton_append]
  rw [documents, lines, List.splitOnP_append_cons_of_forall_mem h.not_isMark _ isMark_separator,
    List.map_cons, Text.flatten_linesOf, String.ofList_toList, documents]

/-- Documents that are put together come apart again. -/
theorem cutsBack_stream (feed : p '\n' = true) (dash : p '-' = false) {texts : List String}
    (h : ∀ text ∈ texts, IsDocument p text) : CutsBack p (stream texts) texts := by
  induction texts with
  | nil => exact ⟨by decide, fun ne_nil => absurd rfl ne_nil⟩
  | cons t ts ih =>
    obtain ⟨first, others⟩ := List.forall_mem_cons.1 h
    cases ts with
    | nil =>
      have alone : stream [t] = t := String.intercalate_singleton
      rw [alone]
      refine ⟨?_, fun _ => documents_of_isDocument first⟩
      exact ⟨fun empty => absurd empty first.ne_empty, fun none => (nomatch none)⟩
    | cons u ts =>
      have later := (ih others).documents_eq (List.cons_ne_nil u ts)
      rw [stream_cons_cons]
      refine ⟨⟨fun empty => ?_, fun none => (nomatch none)⟩, fun _ => ?_⟩
      · have chars := congrArg String.toList empty
        simp [separator] at chars
      · rw [documents_append first feed dash, later]

end Manifest

/-! ## Trees of rules -/

open Yaml (Textual)

/-- Entries that are left out bring no values. -/
theorem textual_part {b : Prop} [Decidable b] {key : String} {t : Tree} (h : Textual t) :
    ∀ e ∈ if b then [] else [(key, t)], Textual e.2 := by
  intro e he
  split at he
  · cases he
  · rw [List.mem_singleton.1 he]
    exact h

theorem Labels.textual_toTree (l : Labels) : Textual l.toTree := by
  apply Textual.map
  intro e he
  obtain ⟨label, -, rfl⟩ := List.mem_map.1 he
  exact .text label.2

theorem Labels.textual_toField (name : String) (l : Labels) :
    ∀ e ∈ l.toField name, Textual e.2 :=
  textual_part l.textual_toTree

theorem Duration.textual_toTree (d : Duration) : Textual d.toTree :=
  .text d.text

theorem RecordingRule.textual_toTree (r : RecordingRule) : Textual r.toTree := by
  apply Textual.map
  refine List.forall_mem_append.2 ⟨?_, r.labels.textual_toField "labels"⟩
  simp [Textual.text]

theorem AlertRule.textual_toTree (a : AlertRule) : Textual a.toTree := by
  apply Textual.map
  simp only [List.forall_mem_append]
  refine ⟨⟨⟨?_, textual_part a.wait.textual_toTree⟩, a.labels.textual_toField "labels"⟩,
    a.annotations.textual_toField "annotations"⟩
  simp [Textual.text]

theorem GroupedRule.textual_toTree (r : GroupedRule) : Textual r.toTree := by
  cases r with
  | recording r => exact r.textual_toTree
  | alert a => exact a.textual_toTree

theorem RuleGroup.textual_toTree (g : RuleGroup) : Textual g.toTree := by
  apply Textual.map
  refine List.forall_mem_cons.2 ⟨.text g.name, List.forall_mem_append.2 ⟨?_, ?_⟩⟩
  · exact textual_part g.interval.textual_toTree
  · refine List.forall_mem_singleton.2 (.list fun t ht => ?_)
    obtain ⟨r, -, rfl⟩ := List.mem_map.1 ht
    exact r.textual_toTree

/-! ## Texts of manifests -/

open Yaml (RestOfLines WholeLines)
open Yaml.Written (isLineEnd)

theorem Resource.toList_write (r : Resource) :
    (Yaml.write r.toTree).toList = Yaml.entriesChars 0
      [ ("apiVersion", .text r.apiVersion),
        ("kind", .text r.kind),
        ("metadata", r.metadata.toTree),
        ("spec", r.spec.toTree) ] :=
  String.toList_ofList

theorem Resource.write_ne_nil (r : Resource) : (Yaml.write r.toTree).toList ≠ [] := by
  simp [toList_write, Yaml.entriesChars, Yaml.valueChars]

/-- Name and labels go on at an indentation, and so do the groups. -/
theorem Resource.wholeLines_write (r : Resource) : WholeLines (Yaml.write r.toTree).toList := by
  have metadata : RestOfLines (Yaml.valueChars 0 r.metadata.toTree) := by
    refine Yaml.rest_map 0 fun e he => Yaml.fits_of_textual ?_
    rcases List.mem_cons.1 he with rfl | he
    · exact .text r.metadata.name
    · exact r.metadata.labels.textual_toField "labels" e he
  have groups : Textual (.list (r.spec.groups.map RuleGroup.toTree)) := by
    refine .list fun t ht => ?_
    obtain ⟨g, -, rfl⟩ := List.mem_map.1 ht
    exact g.textual_toTree
  have spec : RestOfLines (Yaml.valueChars 0 r.spec.toTree) :=
    Yaml.rest_map 0 (List.forall_mem_singleton.2 (Yaml.fits_of_textual groups))
  rw [toList_write]
  apply Yaml.wholeLines_document
  simp only [List.forall_mem_cons]
  exact ⟨⟨by decide, Yaml.rest_text 0 r.apiVersion⟩, ⟨by decide, Yaml.rest_text 0 r.kind⟩,
    ⟨by decide, metadata⟩, ⟨by decide, spec⟩, fun _ h => (nomatch h)⟩

namespace Manifest

variable {p : Char → Bool}

/-- A manifest is a document for every way to end lines that YAML knows, provided that its
    own last line is ended that way. -/
theorem isDocument_write (m : Manifest) (ends : ∀ c, p c = true → isLineEnd c = true)
    (ended : (Yaml.write m.toTree).toList.getLast?.any p = true) :
    IsDocument p (Yaml.write m.toTree) := by
  refine ⟨ended, fun line listed starts => ?_⟩
  have no_dash := m.resource.wholeLines_write.head?_ne_dash ends line listed
  obtain ⟨others, rfl⟩ := starts
  exact no_dash rfl

/-- The line feed alone as the end of a line. -/
def isFeed (c : Char) : Bool := c = '\n'

/-- A text of manifests comes apart into their documents. If only line feeds end lines, it does
    so whatever writes each manifest as a document, and what a manifest is written as is one if
    a line feed ends it. If all that YAML takes for the end of a line ends lines, it does so for
    all manifests. -/
theorem texts_cut_back :
    (∀ (emit : Manifest → String) (ms : List Manifest),
        (∀ m ∈ ms, IsDocument isFeed (emit m)) →
        CutsBack isFeed (stream (ms.map emit)) (ms.map emit)) ∧
      (∀ m : Manifest, (Yaml.write m.toTree).toList.getLast? = some '\n' →
        IsDocument isFeed (Yaml.write m.toTree)) ∧
      ∀ ms : List Manifest,
        CutsBack isLineEnd (text ms) (ms.map fun m => Yaml.write m.toTree) := by
  refine ⟨?_, ?_, ?_⟩
  · intro emit ms emitted
    refine cutsBack_stream (by decide) (by decide) ?_
    intro text listed
    obtain ⟨m, hm, rfl⟩ := List.mem_map.1 listed
    exact emitted m hm
  · intro m last
    apply isDocument_write
    · intro c feed
      rw [of_decide_eq_true feed]
      decide
    · rw [last]
      decide
  · intro ms
    refine cutsBack_stream (by decide) (by decide) ?_
    intro text listed
    obtain ⟨m, -, rfl⟩ := List.mem_map.1 listed
    apply isDocument_write
    · exact fun c ends => ends
    · exact m.resource.wholeLines_write.ended.resolve_left m.resource.write_ne_nil

/-- Two manifests that have lines of dashes in what they say. -/
def marked : List Manifest :=
  [ ⟨"slis-api", KeyMap.ofList [("note", "first\n---\n--- last")], []⟩,
    ⟨"slos-alerts-api", KeyMap.empty,
      [ { name := "slo:api:alert",
          rules := [.alert ⟨"slo:api", "up\n---\n", Duration.zero, KeyMap.empty,
            KeyMap.ofList [("text", "---\n---")]⟩] } ]⟩ ]

theorem texts_cut_back_marked :
    (∀ m ∈ marked, (Yaml.write m.toTree).toList.getLast? = some '\n') ∧
      CutsBack isFeed (text marked) (marked.map fun m => Yaml.write m.toTree) := by
  have last : ∀ m ∈ marked, (Yaml.write m.toTree).toList.getLast? = some '\n' := by
    -- the characters, since a text of them would be encoded and decoded
    simp only [toTree, Resource.toList_write]
    decide +kernel
  refine ⟨last, texts_cut_back.1 (fun m => Yaml.write m.toTree) marked ?_⟩
  intro m hm
  exact texts_cut_back.2.1 m (last m hm)

end Manifest

end ErrorBudget
