import PqCas.Lib.Scan

/-!
This module contains the head of an HTTP request: how it is written, and how a recipient reads it. Lines
end in a line feed, with or without a carriage return in front.
-/

namespace Http

structure Request where
  method : String
  target : String
  version : String
  fields : List (String × String)
  deriving DecidableEq, Repr

def isBlank (c : Char) : Bool :=
  c == ' ' || c == '\t' || c == '\x0b' || c == '\x0c' || c == '\r'

def isPadding (c : Char) : Bool :=
  c == ' ' || c == '\t'

def words (line : String) : List String :=
  ((line.toList.splitOnP isBlank).filter (· ≠ [])).map String.ofList

/--
The value of a field. A carriage return of its own makes a field invalid.
-/
def readField (line : String) : Option (String × String) :=
  if '\r' ∈ line.toList then
    none
  else
    match Text.splitOnce ":" line with
    | none => none
    | some (name, value) =>
      if name ≠ "" ∧ name.toList.all (fun c => !isBlank c) = true then
        some (name, String.ofList (Text.trimList isPadding value.toList))
      else
        none

def readFields : List String → Option (List (String × String) × List String)
  | [] => none
  | line :: lines =>
    if line = "" then
      some ([], lines)
    else
      match readField line, readFields lines with
      | some field, some (fields, rest) => some (field :: fields, rest)
      | _, _ => none

def readRequest (text : String) : Option (Request × List String) :=
  match Text.lines text with
  | [] => none
  | line :: lines =>
    match words line, readFields lines with
    | [method, target, version], some (fields, rest) => some (⟨method, target, version, fields⟩, rest)
    | _, _ => none

def fieldLine (field : String × String) : String :=
  field.1 ++ ": " ++ field.2

namespace Request

def startLine (r : Request) : String :=
  r.method ++ " " ++ r.target ++ " " ++ r.version

def text (r : Request) : String :=
  Text.unlines true (r.startLine :: r.fields.map fieldLine ++ [""])

end Request

structure IsWord (s : String) : Prop where
  ne_empty : s ≠ ""
  noBlank : ∀ c ∈ s.toList, isBlank c = false
  oneLine : '\n' ∉ s.toList

structure FieldOk (field : String × String) : Prop where
  name : IsWord field.1
  noColon : ':' ∉ field.1.toList
  oneLine : '\n' ∉ field.2.toList
  noReturn : '\r' ∉ field.2.toList
  trimmed : Text.trimList isPadding field.2.toList = field.2.toList

structure Request.WellFormed (r : Request) : Prop where
  method : IsWord r.method
  target : IsWord r.target
  version : IsWord r.version
  fields : ∀ field ∈ r.fields, FieldOk field

theorem isWord_iff {s : String}
    : IsWord s ↔ s ≠ "" ∧ ∀ c ∈ s.toList, isBlank c = false ∧ c ≠ '\n' := by
  constructor
  . intro h
    refine ⟨h.ne_empty, ?_⟩
    intro c hc
    refine ⟨h.noBlank c hc, ?_⟩
    rintro rfl
    exact h.oneLine hc
  . rintro ⟨hne, hall⟩
    exact ⟨hne, fun c hc => (hall c hc).1, fun hmem => (hall _ hmem).2 rfl⟩

instance (s : String) : Decidable (IsWord s) :=
  decidable_of_iff (s ≠ "" ∧ s.toList.all (fun c => !isBlank c && c != '\n') = true)
    (by simp [isWord_iff])

theorem fieldOk_iff {field : String × String}
    : FieldOk field
        ↔
      IsWord field.1 ∧ ':' ∉ field.1.toList ∧ '\n' ∉ field.2.toList ∧ '\r' ∉ field.2.toList
        ∧ Text.trimList isPadding field.2.toList = field.2.toList := by
  constructor
  . intro h
    exact ⟨h.name, h.noColon, h.oneLine, h.noReturn, h.trimmed⟩
  . rintro ⟨hname, hcolon, hline, hreturn, htrim⟩
    exact ⟨hname, hcolon, hline, hreturn, htrim⟩

instance (field : String × String) : Decidable (FieldOk field) :=
  decidable_of_iff _ fieldOk_iff.symm

section Read

theorem mem_splitOnP {p : Char → Bool} {s piece : List Char} (h : piece ∈ s.splitOnP p)
    : (∀ c ∈ piece, p c = false) ∧ ∀ c ∈ piece, c ∈ s := by
  induction s generalizing piece with
  | nil =>
    rw [List.splitOnP_nil, List.mem_singleton] at h
    simp [h]
  | cons c s ih =>
    rw [List.splitOnP_cons_eq_if_modifyHead] at h
    split at h
    . rcases List.mem_cons.mp h with rfl | h
      . simp
      . exact ⟨(ih h).1, fun d hd => List.mem_cons_of_mem c ((ih h).2 d hd)⟩
    . next hc =>
      cases hs : s.splitOnP p with
      | nil => exact absurd hs (List.splitOnP_ne_nil _ _)
      | cons first pieces =>
        rw [hs] at h ih
        rcases List.mem_cons.mp h with rfl | h
        . obtain ⟨hno, hin⟩ := ih List.mem_cons_self
          constructor
          . intro d hd
            rcases List.mem_cons.mp hd with rfl | hd
            . simpa using hc
            . exact hno d hd
          . intro d hd
            rcases List.mem_cons.mp hd with rfl | hd
            . exact List.mem_cons_self
            . exact List.mem_cons_of_mem c (hin d hd)
        . have htail := ih (List.mem_cons_of_mem first h)
          exact ⟨htail.1, fun d hd => List.mem_cons_of_mem c (htail.2 d hd)⟩

theorem isWord_of_mem_words {line word : String} (hline : '\n' ∉ line.toList) (h : word ∈ words line)
    : IsWord word := by
  unfold words at h
  obtain ⟨piece, hpiece, rfl⟩ := List.mem_map.mp h
  obtain ⟨hpiece, hne⟩ := List.mem_filter.mp hpiece
  obtain ⟨hno, hin⟩ := mem_splitOnP hpiece
  constructor
  . intro hempty
    rw [← String.toList_inj, String.toList_ofList, String.toList_empty] at hempty
    simp [hempty] at hne
  . rw [String.toList_ofList]
    exact hno
  . rw [String.toList_ofList]
    exact fun hmem => hline (hin _ hmem)

theorem splitOnce_parts {sep : Char} {s front rest : List Char}
    (h : Search.splitOnce [sep] s = some (front, rest)) : sep ∉ front ∧ s = front ++ sep :: rest := by
  induction s generalizing front with
  | nil => cases h
  | cons c s ih =>
    unfold Search.splitOnce at h
    split at h
    . next hpre =>
      cases h
      obtain ⟨t, ht⟩ := hpre
      rw [List.singleton_append, List.cons.injEq] at ht
      simp [ht.1]
    . next hpre =>
      obtain ⟨⟨front', rest'⟩, hsplit, heq⟩ := Option.map_eq_some_iff.mp h
      cases heq
      obtain ⟨hno, rfl⟩ := ih hsplit
      refine ⟨?_, rfl⟩
      rw [List.mem_cons, not_or]
      refine ⟨?_, hno⟩
      rintro rfl
      exact hpre ⟨_, rfl⟩

theorem fieldOk_of_readField {line : String} {field : String × String} (hline : '\n' ∉ line.toList)
    (h : readField line = some field) : FieldOk field := by
  unfold readField at h
  split at h
  . cases h
  next hreturn =>
  split at h
  . cases h
  next name value hsplit =>
  split at h
  . next hname =>
    cases h
    unfold Text.splitOnce at hsplit
    obtain ⟨⟨front, rest⟩, hparts, heq⟩ := Option.map_eq_some_iff.mp hsplit
    cases heq
    obtain ⟨hcolon, hlist⟩ := splitOnce_parts hparts
    have hin : ∀ c, c ∈ Text.trimList isPadding rest → c ∈ line.toList := by
      intro c hc
      rw [hlist]
      exact List.mem_append_right _ (List.mem_cons_of_mem _ ((Text.infix_trimList _ _).subset hc))
    obtain ⟨hne, hblank⟩ := hname
    constructor
    case name =>
      refine ⟨hne, ?_, ?_⟩
      . intro c hc
        simpa using List.all_eq_true.mp hblank c hc
      . intro hmem
        rw [String.toList_ofList] at hmem
        apply hline
        rw [hlist]
        exact List.mem_append_left _ hmem
    case noColon =>
      rw [String.toList_ofList]
      exact hcolon
    case oneLine =>
      rw [String.toList_ofList, String.toList_ofList]
      exact fun hmem => hline (hin _ hmem)
    case noReturn =>
      rw [String.toList_ofList, String.toList_ofList]
      exact fun hmem => hreturn (hin _ hmem)
    case trimmed =>
      rw [String.toList_ofList, String.toList_ofList]
      apply Text.trimList_trimList
  . cases h

theorem fieldOk_of_readFields {lines rest : List String} {fields : List (String × String)}
    (hlines : ∀ line ∈ lines, '\n' ∉ line.toList) (h : readFields lines = some (fields, rest))
    : ∀ field ∈ fields, FieldOk field := by
  induction lines generalizing fields with
  | nil => cases h
  | cons line lines ih =>
    unfold readFields at h
    split at h
    . cases h
      simp
    . split at h
      . next field fields' rest' hfield hfields =>
        cases h
        intro f hf
        rcases List.mem_cons.mp hf with rfl | hf
        . exact fieldOk_of_readField (hlines line List.mem_cons_self) hfield
        . exact ih (fun l hl => hlines l (List.mem_cons_of_mem _ hl)) hfields f hf
      . cases h

theorem wellFormed_of_readRequest {text : String} {r : Request} {rest : List String}
    (h : readRequest text = some (r, rest)) : r.WellFormed := by
  unfold readRequest at h
  split at h
  . cases h
  next line lines hlines =>
  have hone : ∀ l ∈ line :: lines, '\n' ∉ l.toList := by
    intro l hl
    rw [← hlines] at hl
    exact Text.newline_not_mem_of_mem_lines hl
  split at h
  . next method target version fields rest' hwords hfields =>
    cases h
    have hword : ∀ word ∈ words line, IsWord word :=
      fun word hmem => isWord_of_mem_words (hone line List.mem_cons_self) hmem
    rw [hwords] at hword
    constructor
    case method => exact hword _ (by simp)
    case target => exact hword _ (by simp)
    case version => exact hword _ (by simp)
    case fields => exact fieldOk_of_readFields (fun l hl => hone l (List.mem_cons_of_mem _ hl)) hfields
  . cases h

end Read

section Print

theorem words_append {word : String} (h : IsWord word) (rest : String)
    : words (word ++ " " ++ rest) = word :: words rest := by
  have hspace : isBlank ' ' = true := by decide
  have hne : word.toList ≠ [] := by simpa using h.ne_empty
  have hlist : (word ++ " " ++ rest).toList = word.toList ++ ' ' :: rest.toList := by simp
  unfold words
  rw [hlist, List.splitOnP_append_cons_of_forall_mem h.noBlank _ hspace]
  simp [hne]

theorem words_word {word : String} (h : IsWord word) : words word = [word] := by
  have hne : word.toList ≠ [] := by simpa using h.ne_empty
  unfold words
  rw [List.splitOnP_eq_singleton h.noBlank]
  simp [hne]

theorem IsWord.isLine {s : String} (h : IsWord s) : Text.IsLine s := by
  refine ⟨h.oneLine, ?_⟩
  intro hlast
  cases h.noBlank '\r' (List.mem_of_getLast? hlast)

theorem FieldOk.isLine {field : String × String} (h : FieldOk field) : Text.IsLine (fieldLine field) := by
  have hsep : Text.IsLine ": " := by decide
  have hvalue : Text.IsLine field.2 := by
    refine ⟨h.oneLine, ?_⟩
    intro hlast
    exact h.noReturn (List.mem_of_getLast? hlast)
  exact (h.name.isLine.append hsep).append hvalue

theorem readField_fieldLine {field : String × String} (h : FieldOk field)
    : readField (fieldLine field) = some field := by
  have hlist : (fieldLine field).toList = field.1.toList ++ ([':'] ++ ' ' :: field.2.toList) := by
    simp [fieldLine]
  have hreturn : '\r' ∉ (fieldLine field).toList := by
    rw [hlist]
    have hname : '\r' ∉ field.1.toList := fun hmem => by cases h.name.noBlank _ hmem
    simp [hname, h.noReturn]
  have hapart : Search.Apart [':'] [':'] := by decide
  have hcolon : ¬ [':'] <:+: field.1.toList := fun hin => h.noColon (hin.subset (by simp))
  have hsplit : Text.splitOnce ":" (fieldLine field) = some (field.1, String.ofList (' ' :: field.2.toList)) := by
    have hsep : ":".toList = [':'] := rfl
    unfold Text.splitOnce
    rw [hlist, hsep, hapart.splitOnce_eq hcolon, Option.map_some]
    dsimp only
    rw [String.ofList_toList]
  have hblank : field.1.toList.all (fun c => !isBlank c) = true := by
    rw [List.all_eq_true]
    intro c hc
    rw [h.name.noBlank c hc]
    rfl
  have htrim : Text.trimList isPadding (' ' :: field.2.toList) = field.2.toList := by
    have hdrop := Text.trimList_dropWhile isPadding (' ' :: field.2.toList)
    have hpadding : isPadding ' ' = true := by decide
    rw [List.dropWhile_cons_of_pos hpadding, Text.trimList_dropWhile, h.trimmed] at hdrop
    exact hdrop.symm
  unfold readField
  rw [if_neg hreturn, hsplit]
  dsimp only
  rw [if_pos ⟨h.name.ne_empty, hblank⟩, String.toList_ofList, htrim, String.ofList_toList]

theorem readFields_fieldLine {fields : List (String × String)} (h : ∀ field ∈ fields, FieldOk field)
    (rest : List String) : readFields (fields.map fieldLine ++ "" :: rest) = some (fields, rest) := by
  induction fields with
  | nil => rfl
  | cons field fields ih =>
    have hne : fieldLine field ≠ "" := by
      intro hempty
      rw [← String.toList_inj] at hempty
      simp [fieldLine] at hempty
    rw [List.map_cons, List.cons_append, readFields, if_neg hne,
      readField_fieldLine (h field List.mem_cons_self),
      ih (fun f hf => h f (List.mem_cons_of_mem _ hf))]

theorem readRequest_text_iff {r : Request} : readRequest r.text = some (r, []) ↔ r.WellFormed := by
  constructor
  . exact wellFormed_of_readRequest
  . intro h
    have hspace : Text.IsLine " " := by decide
    have hstart : Text.IsLine r.startLine :=
      (((h.method.isLine.append hspace).append h.target.isLine).append hspace).append h.version.isLine
    have hall : ∀ line ∈ r.startLine :: r.fields.map fieldLine ++ [""], Text.IsLine line := by
      intro line hline
      rw [List.cons_append] at hline
      rcases List.mem_cons.mp hline with rfl | hline
      . exact hstart
      rcases List.mem_append.mp hline with hline | hline
      . obtain ⟨field, hfield, rfl⟩ := List.mem_map.mp hline
        exact (h.fields field hfield).isLine
      . rw [List.mem_singleton.mp hline]
        decide
    have hlines := Text.lines_unlines hall true ""
    rw [String.append_empty, Text.lines_empty, List.append_nil] at hlines
    have hwords : words r.startLine = [r.method, r.target, r.version] := by
      have hassoc : r.startLine = r.method ++ " " ++ (r.target ++ " " ++ r.version) := by
        unfold Request.startLine
        simp only [String.append_assoc]
      rw [hassoc, words_append h.method, words_append h.target, words_word h.version]
    unfold readRequest Request.text
    rw [hlines, List.cons_append]
    dsimp only
    rw [hwords, readFields_fieldLine h.fields]

end Print

end Http
