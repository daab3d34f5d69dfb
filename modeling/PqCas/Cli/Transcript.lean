import PqCas.Cli.Printed

/-!
What OpenSSL prints about a handshake and the HTTP response behind it, and what the parser gets back.
-/

namespace PqCas

namespace cli

def searchStrings : List String :=
  [
    "Protocol  : ", "Protocol: ", "Cipher    : ", "Cipher is ", "Negotiated TLS1.3 group: ",
    "Peer Temp Key: ", "Peer signature type: ", "SSL handshake has read", "HTTP/1."
  ]

def cipherPlaceholders : List String :=
  ["0000", "(NONE)", "NONE"]

def Free (text : String) : Prop :=
  ∀ needle ∈ searchStrings, ¬ needle.toList <:+: text.toList

instance (text : String) : Decidable (Free text) :=
  inferInstanceAs (Decidable (∀ needle ∈ searchStrings, ¬ needle.toList <:+: text.toList))

structure Printable (value : String) : Prop where
  ne_empty : value ≠ ""
  trimmed : Text.trim value = value
  oneLine : '\n' ∉ value.toList
  free : Free value

instance (value : String) : Decidable (Printable value) :=
  decidable_of_iff (value ≠ "" ∧ Text.trim value = value ∧ '\n' ∉ value.toList ∧ Free value)
    ⟨fun ⟨h₁, h₂, h₃, h₄⟩ => ⟨h₁, h₂, h₃, h₄⟩, fun ⟨h₁, h₂, h₃, h₄⟩ => ⟨h₁, h₂, h₃, h₄⟩⟩

inductive GroupLine where
  | negotiated
  | peerTempKey (bits : Nat)
  | peerTempKeyEcdh (bits : Nat)
  deriving DecidableEq

def GroupLine.label (line : GroupLine) : String :=
  match line with
  | .negotiated => "Negotiated TLS1.3 group: "
  | .peerTempKey _ | .peerTempKeyEcdh _ => "Peer Temp Key: "

def GroupLine.layout (line : GroupLine) : Layout :=
  match line with
  | .negotiated => .plain
  | .peerTempKey bits => .keySize bits
  | .peerTempKeyEcdh bits => .mechanism false bits

/--
What `s_client` says about a handshake. `session` and `protocolLine` tell where it prints the version.
-/
structure Transcript where
  version : String
  cipher : String
  group : String
  signatureType : String
  bytesRead : UInt64
  bytesWritten : UInt64
  groupLine : GroupLine
  session : Bool
  protocolLine : Bool
  /-- The lines about anything else, such as the certificates. -/
  other : List String

def countsText (bytesRead bytesWritten : UInt64) : String :=
  toString bytesRead.toNat ++ " bytes and written " ++ toString bytesWritten.toNat ++ " bytes"

def Transcript.fields (t : Transcript) : List (String × String) :=
  [
    ("SSL handshake has read ", countsText t.bytesRead t.bytesWritten),
    (t.groupLine.label, String.ofList (t.groupLine.layout.text t.group.toList)),
    ("Peer signature type: ", t.signatureType)
  ]
  ++ (if t.protocolLine then [("Protocol: ", t.version)] else [])
  ++ (if t.session then [("    Protocol  : ", t.version), ("    Cipher    : ", t.cipher)] else [])

def Transcript.newLine (t : Transcript) : String :=
  "New, " ++ t.version ++ ", Cipher is " ++ t.cipher

def Transcript.lines (t : Transcript) : List String :=
  t.other ++ t.newLine :: t.fields.map (fun (label, text) => label ++ text)

structure Transcript.WellFormed (t : Transcript) : Prop where
  version : Printable t.version
  cipher : Printable t.cipher
  group : Printable t.group
  signatureType : Printable t.signatureType
  other : ∀ line ∈ t.other, Text.IsLine line ∧ Free line
  shown : t.session = true ∨ t.protocolLine = true
  fits : t.groupLine.layout.Fits t.group

structure HttpMessage where
  status : UInt16
  reason : String
  headers : List (String × String)
  body : String
  crlf : Bool

def HttpMessage.statusLine (m : HttpMessage) : String :=
  "HTTP/1.1 " ++ toString m.status.toNat ++ " " ++ m.reason

def headerLine (header : String × String) : String :=
  header.1 ++ ": " ++ header.2

def HttpMessage.text (m : HttpMessage) : String :=
  Text.unlines m.crlf (m.statusLine :: m.headers.map headerLine ++ [""]) ++ m.body

structure HeaderOk (header : String × String) : Prop where
  name_ne_empty : header.1 ≠ ""
  name_trimmed : Text.trim header.1 = header.1
  noColon : ':' ∉ header.1.toList
  name_oneLine : '\n' ∉ header.1.toList
  value_trimmed : Text.trim header.2 = header.2
  value_oneLine : '\n' ∉ header.2.toList
  name_free : Free header.1
  value_free : Free header.2

instance (header : String × String) : Decidable (HeaderOk header) :=
  decidable_of_iff (header.1 ≠ "" ∧ Text.trim header.1 = header.1 ∧ ':' ∉ header.1.toList
      ∧ '\n' ∉ header.1.toList ∧ Text.trim header.2 = header.2 ∧ '\n' ∉ header.2.toList
      ∧ Free header.1 ∧ Free header.2)
    ⟨fun ⟨h₁, h₂, h₃, h₄, h₅, h₆, h₇, h₈⟩ => ⟨h₁, h₂, h₃, h₄, h₅, h₆, h₇, h₈⟩,
      fun ⟨h₁, h₂, h₃, h₄, h₅, h₆, h₇, h₈⟩ => ⟨h₁, h₂, h₃, h₄, h₅, h₆, h₇, h₈⟩⟩

structure HttpMessage.WellFormed (m : HttpMessage) : Prop where
  reason : Text.IsLine m.reason ∧ Free m.reason
  headers : ∀ header ∈ m.headers, HeaderOk header
  body : Free m.body

section Text

variable {text : String}

structure Shown (text : String) : Prop where
  oneLine : '\n' ∉ text.toList
  last : ∃ s c, text.toList = s ++ [c] ∧ Text.isWhitespace c = false
  free : Free text

theorem Printable.toShown (h : Printable text) : Shown text :=
  ⟨h.oneLine, Text.exists_last_of_trim_eq_self h.trimmed h.ne_empty, h.free⟩

theorem Printable.shown_eq (h : Printable text) : shown text.toList = some text := by
  rw [shown_toList, h.trimmed, if_pos h.ne_empty]

theorem Shown.isLine (h : Shown text) : Text.IsLine text := by
  refine ⟨h.oneLine, ?_⟩
  obtain ⟨s, c, hs, hc⟩ := h.last
  rw [hs, List.getLast?_concat]
  rintro ⟨⟩
  cases hc

/--
A letter that is neither in a key size nor in the name of a mechanism.
-/
def isRare (c : Char) : Bool :=
  !c.isDigit && c ∉ " bits".toList && c ∉ (mechanismName false).toList && c ∉ (mechanismName true).toList

theorem any_isRare
    : ∀ needle ∈ searchStrings, needle.toList.any isRare = true ∧ ',' ∉ needle.toList
        ∧ needle.toList.head? ≠ some ' ' := by
  decide +kernel

theorem free_layout (layout : Layout) {name : String} (h : Free name)
    : Free (String.ofList (layout.text name.toList)) := by
  intro needle hneedle
  obtain ⟨hany, hcomma, hhead⟩ := any_isRare needle hneedle
  obtain ⟨c, hc, hrare⟩ := List.any_eq_true.mp hany
  simp only [isRare, Bool.and_eq_true, Bool.not_eq_true', decide_eq_true_eq] at hrare
  obtain ⟨⟨⟨hdigit, hbits⟩, hplain⟩, hephemeral⟩ := hrare
  have hmechanism : ∀ ephemeral, c ∉ (mechanismName ephemeral).toList := by
    intro ephemeral
    cases ephemeral with
    | false => exact hplain
    | true => exact hephemeral
  rw [String.toList_ofList, infix_text_iff hc hdigit hbits hmechanism hcomma hhead]
  exact h needle hneedle

theorem shown_layout (layout : Layout) {name : String} (h : Printable name)
    : Shown (String.ofList (layout.text name.toList)) := by
  have hne : layout.text name.toList ≠ [] := by
    cases layout with
    | plain | bare => simpa [Layout.text] using h.ne_empty
    | keySize bits => simp [Layout.text]
    | mechanism ephemeral bits => simp [Layout.text_mechanism]
  refine ⟨?_, ?_, free_layout layout h.free⟩
  . rw [String.toList_ofList]
    apply not_mem_text (by decide) (by decide) (by decide) _ _ h.oneLine
    decide
  . rw [String.toList_ofList]
    exact exists_last_text h.trimmed hne

theorem head_isUpper : ∀ needle ∈ searchStrings, needle.toList.head?.any Char.isUpper = true := by
  decide +kernel

theorem exists_head {needle : String} (hneedle : needle ∈ searchStrings)
    : ∃ c rest, needle.toList = c :: rest ∧ c.isUpper = true := by
  have hhead := head_isUpper needle hneedle
  cases hlist : needle.toList with
  | nil =>
    rw [hlist] at hhead
    cases hhead
  | cons c rest =>
    rw [hlist] at hhead
    exact ⟨c, rest, rfl, hhead⟩

theorem not_infix_append {needle : String} (hneedle : needle ∈ searchStrings) {pre s : List Char}
    (hpre : ∀ c ∈ pre, c.isUpper = false) (hs : ¬ needle.toList <:+: s)
    : ¬ needle.toList <:+: pre ++ s := by
  obtain ⟨c, rest, hlist, hupper⟩ := exists_head hneedle
  rw [hlist] at hs ⊢
  apply Search.not_infix_append _ hs
  intro hc
  rw [hpre c hc] at hupper
  cases hupper

theorem not_infix_nil {needle : String} (hneedle : needle ∈ searchStrings) : ¬ needle.toList <:+: [] := by
  obtain ⟨c, rest, hlist, -⟩ := exists_head hneedle
  rw [hlist, List.infix_nil]
  exact List.cons_ne_nil c rest

theorem isUpper_of_isDigit {c : Char} (h : c.isDigit = true) : c.isUpper = false := by
  rw [← Bool.not_eq_true]
  intro hupper
  simp only [Char.isUpper, Char.isDigit, Bool.and_eq_true, decide_eq_true_eq, UInt32.le_iff_toNat_le] at h hupper
  simp at h hupper
  omega

theorem shown_countsText (bytesRead bytesWritten : UInt64) : Shown (countsText bytesRead bytesWritten) := by
  have hwritten : " bytes and written ".toList.all (fun c => !c.isUpper && c != '\n') = true := by decide
  have hbytes : " bytes".toList.all (fun c => !c.isUpper && c != '\n') = true := by decide
  have hdigits : ∀ n : Nat, (toString n).toList.all (fun c => !c.isUpper && c != '\n') = true := by
    intro n
    rw [List.all_eq_true]
    intro c hc
    have hdigit := Text.isDigit_of_mem_toString hc
    rw [isUpper_of_isDigit hdigit]
    simp only [Bool.not_false, Bool.true_and, bne_iff_ne]
    rintro rfl
    cases hdigit
  have hall : (countsText bytesRead bytesWritten).toList.all (fun c => !c.isUpper && c != '\n') = true := by
    unfold countsText
    simp only [String.toList_append, List.all_append, hdigits, hwritten, hbytes, Bool.and_self]
  rw [List.all_eq_true] at hall
  refine ⟨?_, ?_, ?_⟩
  . intro hmem
    cases hall _ hmem
  . refine ⟨(toString bytesRead.toNat ++ " bytes and written " ++ toString bytesWritten.toNat ++ " byte").toList,
      's', ?_, by decide⟩
    have hs : " bytes" = " byte" ++ String.ofList ['s'] := by decide
    unfold countsText
    rw [hs]
    simp
  . intro needle hneedle
    rw [← List.append_nil (countsText bytesRead bytesWritten).toList]
    apply not_infix_append hneedle _ (not_infix_nil hneedle)
    intro c hc
    simpa using (Bool.and_eq_true_iff.mp (hall c hc)).1

end Text

section Lines

variable {t : Transcript}

def labels : List String :=
  [
    "SSL handshake has read ", "Negotiated TLS1.3 group: ", "Peer Temp Key: ", "Peer signature type: ",
    "Protocol: ", "    Protocol  : ", "    Cipher    : "
  ]

theorem clear_labels
    : ∀ needle ∈ searchStrings, ∀ label ∈ labels, ¬ needle.toList <:+: label.toList →
        Search.Clear needle.toList (label.toList.dropWhile (· = ' ')) := by
  decide +kernel

theorem isLine_labels : ∀ label ∈ labels, Text.IsLine label := by
  decide +kernel

theorem Transcript.WellFormed.fields (ht : t.WellFormed)
    : ∀ f ∈ t.fields, f.1 ∈ labels ∧ Shown f.2 := by
  have hcounts := shown_countsText t.bytesRead t.bytesWritten
  have hgroup := shown_layout t.groupLine.layout ht.group
  have hversion := ht.version.toShown
  have hcipher := ht.cipher.toShown
  have hsignature := ht.signatureType.toShown
  have hlabel : t.groupLine.label ∈ labels := by cases t.groupLine <;> simp [GroupLine.label, labels]
  intro f hf
  unfold Transcript.fields at hf
  rw [List.mem_append, List.mem_append] at hf
  rcases hf with (hf | hf) | hf
  . simp only [List.mem_cons, List.not_mem_nil, or_false] at hf
    rcases hf with rfl | rfl | rfl
    . exact ⟨by simp [labels], hcounts⟩
    . exact ⟨hlabel, hgroup⟩
    . exact ⟨by simp [labels], hsignature⟩
  . split at hf
    . rw [List.mem_singleton.mp hf]
      exact ⟨by simp [labels], hversion⟩
    . cases hf
  . split at hf
    . simp only [List.mem_cons, List.not_mem_nil, or_false] at hf
      rcases hf with rfl | rfl
      . exact ⟨by simp [labels], hversion⟩
      . exact ⟨by simp [labels], hcipher⟩
    . cases hf

theorem nodup_fields (t : Transcript) : (t.fields.map Prod.fst).Nodup := by
  unfold Transcript.fields
  cases t.groupLine <;> cases t.protocolLine <;> cases t.session <;> simp [GroupLine.label]

theorem mem_lines {line : String}
    : line ∈ t.lines ↔ line ∈ t.other ∨ line = t.newLine ∨ ∃ f ∈ t.fields, f.1 ++ f.2 = line := by
  simp [Transcript.lines]

section Needle

variable {needle : String}

theorem not_infix_field (hneedle : needle ∈ searchStrings) {label text : String} (hlabel : label ∈ labels)
    (hout : ¬ needle.toList <:+: label.toList) (htext : Free text)
    : ¬ needle.toList <:+: (label ++ text).toList := by
  have hclear := clear_labels needle hneedle label hlabel hout
  have hindent : ∀ c ∈ label.toList.takeWhile (· = ' '), c.isUpper = false := by
    intro c hc
    have hspace := List.mem_takeWhile_imp hc
    rw [of_decide_eq_true hspace]
    decide
  have hline := not_infix_append hneedle hindent
    (hclear.not_infix (not_infix_nil hneedle) (htext needle hneedle))
  rw [List.nil_append, ← List.append_assoc, List.takeWhile_append_dropWhile, ← String.toList_append] at hline
  exact hline

theorem clear_newLine
    : ∀ needle ∈ searchStrings, needle ≠ "Cipher is " →
        Search.Clear needle.toList "New, ".toList ∧ Search.Clear needle.toList ", Cipher is ".toList := by
  decide +kernel

theorem not_infix_newLine (hneedle : needle ∈ searchStrings) (hne : needle ≠ "Cipher is ")
    (ht : t.WellFormed) : ¬ needle.toList <:+: t.newLine.toList := by
  obtain ⟨hnew, hcipher⟩ := clear_newLine needle hneedle hne
  have hvalues := hcipher.not_infix (ht.version.free needle hneedle) (ht.cipher.free needle hneedle)
  have hline : t.newLine.toList
      = [] ++ ("New, ".toList ++ (t.version.toList ++ (", Cipher is ".toList ++ t.cipher.toList))) := by
    unfold Transcript.newLine
    simp only [String.toList_append, List.append_assoc, List.nil_append]
  rw [hline]
  exact hnew.not_infix (not_infix_nil hneedle) hvalues

theorem valueOn_own {label text : String} (h : Search.after needle.toList label.toList = some [])
    : valueOn needle (label ++ text) = shown text.toList := by
  have hafter := Search.after_append_right h text.toList
  rw [List.nil_append, ← String.toList_append] at hafter
  rw [← valueOn_of_some hafter, String.ofList_toList]

theorem valueOn_absent {line : String} (h : ¬ needle.toList <:+: line.toList) : valueOn needle line = none := by
  rw [← valueOn_of_absent h, String.ofList_toList]

end Needle

theorem valueOn_newLine (ht : t.WellFormed) : valueOn "Cipher is " t.newLine = some t.cipher := by
  have hversion := ht.version.free "Cipher is " (by simp [searchStrings])
  have hapart : Search.Apart "Cipher is ".toList "Cipher is ".toList := by decide
  have hpre : ¬ "Cipher is ".toList <:+: "New".toList ++ ',' :: ' ' :: (t.version.toList ++ ',' :: ' ' :: []) := by
    have hcomma : ',' ∉ "Cipher is ".toList := by decide
    have hne : "Cipher is ".toList ≠ [] := by decide
    have hnew : ¬ "Cipher is ".toList <:+: "New".toList := by decide
    have hspace : ¬ "Cipher is ".toList <:+: [' '] := by decide
    rw [Search.infix_append_cons_iff hcomma hne, ← List.cons_append, Search.infix_append_cons_iff hcomma hne,
      List.infix_cons_iff]
    simp only [hnew, hversion, hspace, or_false, false_or]
    rintro ⟨rest, hrest⟩
    simp at hrest
  have hline : t.newLine.toList
      = ("New".toList ++ ',' :: ' ' :: (t.version.toList ++ ',' :: ' ' :: []))
        ++ ("Cipher is ".toList ++ t.cipher.toList) := by
    unfold Transcript.newLine
    simp
  have hafter := hapart.after_eq hpre t.cipher.toList
  rw [← hline] at hafter
  have hvalue := valueOn_of_some hafter
  rw [String.ofList_toList] at hvalue
  rw [hvalue, ht.cipher.shown_eq]

theorem isLine_of_mem_lines (ht : t.WellFormed) {line : String} (hline : line ∈ t.lines)
    : Text.IsLine line := by
  rcases mem_lines.mp hline with hother | rfl | ⟨f, hf, rfl⟩
  . exact (ht.other line hother).1
  . have hnew : Text.IsLine "New, " := by decide
    have hcipher : Text.IsLine ", Cipher is " := by decide
    exact ((hnew.append ht.version.toShown.isLine).append hcipher).append ht.cipher.toShown.isLine
  . obtain ⟨hlabel, htext⟩ := ht.fields f hf
    exact (isLine_labels f.1 hlabel).append htext.isLine

end Lines

theorem findSome?_eq_some_of_forall {α β : Type} {f : α → Option β} {l : List α} {b : β}
    (hsome : ∃ a ∈ l, f a = some b) (hall : ∀ a ∈ l, ∀ b', f a = some b' → b' = b)
    : l.findSome? f = some b := by
  obtain ⟨a, ha, hfa⟩ := hsome
  cases hfind : l.findSome? f with
  | none =>
    rw [List.findSome?_eq_none_iff.mp hfind a ha] at hfa
    cases hfa
  | some b' =>
    obtain ⟨a', ha', hfa'⟩ := List.exists_of_findSome?_eq_some hfind
    rw [hall a' ha' b' hfa']

def labelTable : List (String × String) :=
  [
    ("Protocol  : ", "    Protocol  : "),
    ("Protocol: ", "Protocol: "),
    ("Cipher    : ", "    Cipher    : "),
    ("Negotiated TLS1.3 group: ", "Negotiated TLS1.3 group: "),
    ("Peer Temp Key: ", "Peer Temp Key: "),
    ("Peer signature type: ", "Peer signature type: ")
  ]

structure Labelled (needle label : String) : Prop where
  searched : needle ∈ searchStrings
  ne_cipherIs : needle ≠ "Cipher is "
  ends : Search.after needle.toList label.toList = some []
  only : ∀ l ∈ labels, needle.toList <:+: l.toList → l = label

theorem labelled : ∀ p ∈ labelTable, Labelled p.1 p.2 := by
  have hall : ∀ p ∈ labelTable, p.1 ∈ searchStrings ∧ p.1 ≠ "Cipher is "
      ∧ Search.after p.1.toList p.2.toList = some []
      ∧ ∀ l ∈ labels, p.1.toList <:+: l.toList → l = p.2 := by
    decide +kernel
  intro p hp
  obtain ⟨hsearched, hne, hends, honly⟩ := hall p hp
  exact ⟨hsearched, hne, hends, honly⟩

section Values

variable {t : Transcript} {ls : List String} {needle label : String}

theorem valueAfter_unlines (ht : t.WellFormed) (hls : ls.Perm t.lines) (rest : String)
    : valueAfter (Text.unlines false ls ++ rest) needle
        =
      (ls.findSome? (valueOn needle)).or (valueAfter rest needle) := by
  have hlines : ∀ line ∈ ls, Text.IsLine line := fun line hline => isLine_of_mem_lines ht (hls.mem_iff.mp hline)
  unfold valueAfter
  rw [Text.lines_unlines hlines, List.findSome?_append]

theorem valueAfter_field (ht : t.WellFormed) (hls : ls.Perm t.lines) (hpair : (needle, label) ∈ labelTable)
    {text value : String} (hmem : (label, text) ∈ t.fields) (hvalue : shown text.toList = some value)
    (rest : String) : valueAfter (Text.unlines false ls ++ rest) needle = some value := by
  have hneedle : Labelled needle label := labelled _ hpair
  have hline : valueOn needle (label ++ text) = some value := by rw [valueOn_own hneedle.ends, hvalue]
  rw [valueAfter_unlines ht hls, findSome?_eq_some_of_forall, Option.some_or]
  . exact ⟨label ++ text, hls.mem_iff.mpr (mem_lines.mpr (.inr (.inr ⟨_, hmem, rfl⟩))), hline⟩
  . intro line hin v hv
    rcases mem_lines.mp (hls.mem_iff.mp hin) with hother | rfl | ⟨f, hf, rfl⟩
    . rw [valueOn_absent ((ht.other line hother).2 needle hneedle.searched)] at hv
      cases hv
    . rw [valueOn_absent (not_infix_newLine hneedle.searched hneedle.ne_cipherIs ht)] at hv
      cases hv
    . obtain ⟨hknown, htext⟩ := ht.fields f hf
      by_cases hout : needle.toList <:+: f.1.toList
      . have hsame := List.inj_on_of_nodup_map (nodup_fields t) hf hmem (hneedle.only f.1 hknown hout)
        rw [hsame, hline, Option.some.injEq] at hv
        exact hv.symm
      . rw [valueOn_absent (not_infix_field hneedle.searched hknown hout htext.free)] at hv
        cases hv

theorem valueAfter_rest (ht : t.WellFormed) (hls : ls.Perm t.lines) (hpair : (needle, label) ∈ labelTable)
    (hmissing : label ∉ t.fields.map Prod.fst) (rest : String)
    : valueAfter (Text.unlines false ls ++ rest) needle = valueAfter rest needle := by
  have hneedle : Labelled needle label := labelled _ hpair
  have hnone : ls.findSome? (valueOn needle) = none := by
    rw [List.findSome?_eq_none_iff]
    intro line hin
    apply valueOn_absent
    rcases mem_lines.mp (hls.mem_iff.mp hin) with hother | rfl | ⟨f, hf, rfl⟩
    . exact (ht.other line hother).2 needle hneedle.searched
    . exact not_infix_newLine hneedle.searched hneedle.ne_cipherIs ht
    . obtain ⟨hknown, htext⟩ := ht.fields f hf
      have hout : ¬ needle.toList <:+: f.1.toList := by
        intro hin
        apply hmissing
        rw [← hneedle.only f.1 hknown hin]
        exact List.mem_map_of_mem hf
      exact not_infix_field hneedle.searched hknown hout htext.free
  rw [valueAfter_unlines ht hls, hnone, Option.none_or]

theorem valueAfter_newLine (ht : t.WellFormed) (hls : ls.Perm t.lines) (rest : String)
    : valueAfter (Text.unlines false ls ++ rest) "Cipher is " = some t.cipher := by
  have hneedle : "Cipher is " ∈ searchStrings := by simp [searchStrings]
  have hlabels : ∀ label ∈ labels, ¬ "Cipher is ".toList <:+: label.toList := by decide +kernel
  rw [valueAfter_unlines ht hls, findSome?_eq_some_of_forall, Option.some_or]
  . exact ⟨t.newLine, hls.mem_iff.mpr (mem_lines.mpr (.inr (.inl rfl))), valueOn_newLine ht⟩
  . intro line hin v hv
    rcases mem_lines.mp (hls.mem_iff.mp hin) with hother | rfl | ⟨f, hf, rfl⟩
    . rw [valueOn_absent ((ht.other line hother).2 _ hneedle)] at hv
      cases hv
    . rw [valueOn_newLine ht, Option.some.injEq] at hv
      exact hv.symm
    . obtain ⟨hknown, htext⟩ := ht.fields f hf
      rw [valueOn_absent (not_infix_field hneedle hknown (hlabels _ hknown) htext.free)] at hv
      cases hv

structure Keeps (t : Transcript) (rest : String) : Prop where
  protocol : t.session = false → valueAfter rest "Protocol  : " = none
  cipher : t.session = false → valueAfter rest "Cipher    : " = none
  group : t.groupLine ≠ .negotiated → valueAfter rest "Negotiated TLS1.3 group: " = none

variable {rest : String}

theorem tlsVersion_eq (ht : t.WellFormed) (hls : ls.Perm t.lines) (hrest : Keeps t rest)
    : (opensslNegotiated (Text.unlines false ls ++ rest)).tlsVersion = some t.version := by
  have hshown := ht.version.shown_eq
  unfold opensslNegotiated
  dsimp only
  cases hsession : t.session with
  | true =>
    have hmem : ("    Protocol  : ", t.version) ∈ t.fields := by simp [Transcript.fields, hsession]
    rw [valueAfter_field ht hls (by simp [labelTable]) hmem hshown]
    rfl
  | false =>
    have hline : t.protocolLine = true := by simpa [hsession] using ht.shown
    have hmem : ("Protocol: ", t.version) ∈ t.fields := by simp [Transcript.fields, hline]
    have hmissing : "    Protocol  : " ∉ t.fields.map Prod.fst := by
      cases hgroup : t.groupLine <;> simp [Transcript.fields, GroupLine.label, hsession, hgroup]
    rw [valueAfter_rest ht hls (by simp [labelTable]) hmissing, hrest.protocol hsession,
      valueAfter_field ht hls (by simp [labelTable]) hmem hshown]
    rfl

theorem cipherSuite_eq (ht : t.WellFormed) (hls : ls.Perm t.lines) (hrest : Keeps t rest)
    : (opensslNegotiated (Text.unlines false ls ++ rest)).cipherSuite
        =
      if t.cipher ∈ cipherPlaceholders then none else some t.cipher := by
  have hshown := ht.cipher.shown_eq
  have hvalue : (valueAfter (Text.unlines false ls ++ rest) "Cipher    : ").or
      (valueAfter (Text.unlines false ls ++ rest) "Cipher is ") = some t.cipher := by
    cases hsession : t.session with
    | true =>
      have hmem : ("    Cipher    : ", t.cipher) ∈ t.fields := by simp [Transcript.fields, hsession]
      rw [valueAfter_field ht hls (by simp [labelTable]) hmem hshown]
      rfl
    | false =>
      have hmissing : "    Cipher    : " ∉ t.fields.map Prod.fst := by
        cases hgroup : t.groupLine <;> simp [Transcript.fields, GroupLine.label, hsession, hgroup]
      rw [valueAfter_rest ht hls (by simp [labelTable]) hmissing, hrest.cipher hsession,
        valueAfter_newLine ht hls]
      rfl
  have hfilter : (t.cipher ≠ "0000" && t.cipher ≠ "(NONE)" && t.cipher ≠ "NONE")
      = decide (t.cipher ∉ cipherPlaceholders) := by
    simp [cipherPlaceholders, not_or, Bool.and_assoc]
  unfold opensslNegotiated
  dsimp only
  rw [hvalue, Option.filter_some, hfilter]
  by_cases hplaceholder : t.cipher ∈ cipherPlaceholders <;> simp [hplaceholder]

theorem valueAfter_group (ht : t.WellFormed) (hls : ls.Perm t.lines) (hlabel : (needle, t.groupLine.label) ∈ labelTable)
    (rest : String)
    : (valueAfter (Text.unlines false ls ++ rest) needle).map t.groupLine.layout.kind.read = some t.group := by
  have hread := readBack_of_fits ht.fits ht.group.trimmed
  obtain ⟨value, hshown, hgroup⟩ := exists_of_readBack hread
  have hmem : (t.groupLine.label, String.ofList (t.groupLine.layout.text t.group.toList)) ∈ t.fields := by
    simp [Transcript.fields]
  rw [← String.toList_ofList (l := t.groupLine.layout.text t.group.toList)] at hshown
  rw [valueAfter_field ht hls hlabel hmem hshown, Option.map_some, ← hgroup]

theorem group_eq (ht : t.WellFormed) (hls : ls.Perm t.lines) (hrest : Keeps t rest)
    (hreal : t.group ∉ placeholders .openSsl)
    : (opensslNegotiated (Text.unlines false ls ++ rest)).group = some t.group := by
  have hvalue : ((valueAfter (Text.unlines false ls ++ rest) "Negotiated TLS1.3 group: ").or
      ((valueAfter (Text.unlines false ls ++ rest) "Peer Temp Key: ").map stripKeySize)) = some t.group := by
    by_cases hline : t.groupLine = .negotiated
    . have hlabel : t.groupLine.label = "Negotiated TLS1.3 group: " := by rw [hline]; rfl
      have hkind : t.groupLine.layout.kind = .plain := by rw [hline]; rfl
      have hpair : ("Negotiated TLS1.3 group: ", t.groupLine.label) ∈ labelTable := by
        rw [hlabel]
        simp [labelTable]
      have hgroup := valueAfter_group ht hls hpair rest
      rw [hkind, Option.map_eq_some_iff] at hgroup
      obtain ⟨value, hsome, hread⟩ := hgroup
      rw [hsome, ← hread, Option.some_or]
      rfl
    . obtain ⟨hlabel, hkind⟩ : t.groupLine.label = "Peer Temp Key: " ∧ t.groupLine.layout.kind = .tempKey := by
        cases hcase : t.groupLine with
        | negotiated => exact absurd hcase hline
        | peerTempKey bits => exact ⟨rfl, rfl⟩
        | peerTempKeyEcdh bits => exact ⟨rfl, rfl⟩
      have hpair : ("Peer Temp Key: ", t.groupLine.label) ∈ labelTable := by
        rw [hlabel]
        simp [labelTable]
      have hmissing : "Negotiated TLS1.3 group: " ∉ t.fields.map Prod.fst := by
        cases hp : t.protocolLine <;> cases hs : t.session <;> simp [Transcript.fields, hlabel, hp, hs]
      have hgroup := valueAfter_group ht hls hpair rest
      rw [hkind] at hgroup
      rw [valueAfter_rest ht hls (by simp [labelTable]) hmissing, hrest.group hline, Option.none_or, ← hgroup]
      rfl
  unfold opensslNegotiated
  dsimp only
  rw [hvalue, Option.some_or]
  simpa [placeholders] using hreal

theorem certVerifySigAlg_eq (ht : t.WellFormed) (hls : ls.Perm t.lines) (rest : String)
    : (opensslNegotiated (Text.unlines false ls ++ rest)).certVerifySigAlg = some t.signatureType := by
  have hmem : ("Peer signature type: ", t.signatureType) ∈ t.fields := by simp [Transcript.fields]
  unfold opensslNegotiated
  dsimp only
  rw [valueAfter_field ht hls (by simp [labelTable]) hmem ht.signatureType.shown_eq]

end Values

section Counts

variable {t : Transcript} {ls : List String}

theorem splitWhitespace_toString (n : Nat) (rest : List Char)
    : Text.splitWhitespace (String.ofList ((toString n).toList ++ ' ' :: rest))
        =
      toString n :: Text.splitWhitespace (String.ofList rest) := by
  have hne : (toString n).toList ≠ [] := by
    rw [Text.toList_toString]
    apply Nat.toDigits_ne_nil
  have hdigits : ∀ c ∈ (toString n).toList, Text.isWhitespace c = false :=
    fun c hc => Text.isWhitespace_of_isDigit (Text.isDigit_of_mem_toString hc)
  rw [Text.splitWhitespace_cons hne hdigits, String.ofList_toList]

theorem splitWhitespace_literal {word : String} (hword : word.toList.all (fun c => !Text.isWhitespace c) = true)
    (hne : word ≠ "") (rest : List Char)
    : Text.splitWhitespace (String.ofList (word.toList ++ ' ' :: rest))
        =
      word :: Text.splitWhitespace (String.ofList rest) := by
  have hneList : word.toList ≠ [] := by simpa using hne
  have hvisible : ∀ c ∈ word.toList, Text.isWhitespace c = false := by simpa using hword
  rw [Text.splitWhitespace_cons hneList hvisible, String.ofList_toList]

theorem numbers_countsText (bytesRead bytesWritten : UInt64)
    : (Text.splitWhitespace ("SSL handshake has read " ++ countsText bytesRead bytesWritten)).filterMap
          (Text.parseUnsigned (2 ^ 64))
        =
      [bytesRead.toNat, bytesWritten.toNat] := by
  have hline : "SSL handshake has read " ++ countsText bytesRead bytesWritten
      = String.ofList ("SSL".toList ++ ' ' :: ("handshake".toList ++ ' ' :: ("has".toList ++ ' ' ::
          ("read".toList ++ ' ' :: ((toString bytesRead.toNat).toList ++ ' ' :: ("bytes".toList ++ ' ' ::
          ("and".toList ++ ' ' :: ("written".toList ++ ' ' :: ((toString bytesWritten.toNat).toList ++ ' ' ::
          "bytes".toList))))))))) := by
    rw [← String.toList_inj, String.toList_ofList]
    unfold countsText
    simp
  rw [hline]
  rw [splitWhitespace_literal (by decide) (by decide), splitWhitespace_literal (by decide) (by decide),
    splitWhitespace_literal (by decide) (by decide), splitWhitespace_literal (by decide) (by decide),
    splitWhitespace_toString, splitWhitespace_literal (by decide) (by decide),
    splitWhitespace_literal (by decide) (by decide), splitWhitespace_literal (by decide) (by decide),
    splitWhitespace_toString]
  have hwords : ∀ word ∈ ["SSL", "handshake", "has", "read", "bytes", "and", "written"],
      Text.parseUnsigned (2 ^ 64) word = none := by
    decide +kernel
  have hlast : Text.splitWhitespace (String.ofList "bytes".toList) = ["bytes"] := by decide +kernel
  have hread := Text.parseUnsigned_toString bytesRead.toNat_lt
  have hwritten := Text.parseUnsigned_toString bytesWritten.toNat_lt
  rw [hlast, List.filterMap_cons_none (hwords _ (by simp)), List.filterMap_cons_none (hwords _ (by simp)),
    List.filterMap_cons_none (hwords _ (by simp)), List.filterMap_cons_none (hwords _ (by simp)),
    List.filterMap_cons_some hread, List.filterMap_cons_none (hwords _ (by simp)),
    List.filterMap_cons_none (hwords _ (by simp)), List.filterMap_cons_none (hwords _ (by simp)),
    List.filterMap_cons_some hwritten, List.filterMap_cons_none (hwords _ (by simp)), List.filterMap_nil]

theorem contains_handshake_iff (ht : t.WellFormed) {line : String} (hline : line ∈ t.lines)
    : Text.contains line "SSL handshake has read" = true
        ↔
      line = "SSL handshake has read " ++ countsText t.bytesRead t.bytesWritten := by
  have hneedle : "SSL handshake has read" ∈ searchStrings := by simp [searchStrings]
  have hunique : ∀ l ∈ labels, "SSL handshake has read".toList <:+: l.toList → l = "SSL handshake has read " := by
    decide +kernel
  have hmem : ("SSL handshake has read ", countsText t.bytesRead t.bytesWritten) ∈ t.fields := by
    simp [Transcript.fields]
  unfold Text.contains
  rw [decide_eq_true_eq]
  constructor
  . intro hin
    rcases mem_lines.mp hline with hother | rfl | ⟨f, hf, rfl⟩
    . exact absurd hin ((ht.other line hother).2 _ hneedle)
    . exact absurd hin (not_infix_newLine hneedle (by decide) ht)
    . obtain ⟨hknown, htext⟩ := ht.fields f hf
      by_cases hout : "SSL handshake has read".toList <:+: f.1.toList
      . rw [List.inj_on_of_nodup_map (nodup_fields t) hf hmem (hunique f.1 hknown hout)]
      . exact absurd hin (not_infix_field hneedle hknown hout htext.free)
  . rintro rfl
    have hlabel : "SSL handshake has read".toList <:+: "SSL handshake has read ".toList := by decide +kernel
    rw [String.toList_append]
    exact hlabel.trans (List.prefix_append _ _).isInfix

theorem byteCounts_eq (ht : t.WellFormed) (hls : ls.Perm t.lines) (rest : String)
    : byteCounts (Text.unlines false ls ++ rest) = (t.bytesWritten, t.bytesRead) := by
  have hlines : ∀ line ∈ ls, Text.IsLine line := fun line hline => isLine_of_mem_lines ht (hls.mem_iff.mp hline)
  have hmem : "SSL handshake has read " ++ countsText t.bytesRead t.bytesWritten ∈ t.lines := by
    simp [mem_lines, Transcript.fields]
  have hfind : ls.find? (fun line => Text.contains line "SSL handshake has read")
      = some ("SSL handshake has read " ++ countsText t.bytesRead t.bytesWritten) := by
    cases hfind : ls.find? (fun line => Text.contains line "SSL handshake has read") with
    | none =>
      have hnone := List.find?_eq_none.mp hfind _ (hls.mem_iff.mpr hmem)
      exact absurd ((contains_handshake_iff ht hmem).mpr rfl) hnone
    | some line =>
      have hline := hls.mem_iff.mp (List.mem_of_find?_eq_some hfind)
      have hcontains : Text.contains line "SSL handshake has read" = true := by
        have hp := List.find?_some hfind
        exact hp
      rw [(contains_handshake_iff ht hline).mp hcontains]
  unfold byteCounts
  rw [Text.lines_unlines hlines, List.find?_append, hfind, Option.some_or]
  dsimp only
  rw [numbers_countsText]
  simp

end Counts

section Http

variable {m : HttpMessage}

theorem isLine_headerLine {header : String × String} (h : HeaderOk header)
    : Text.IsLine (headerLine header) := by
  have hcolon : Text.IsLine ": " := by decide
  have hname := Text.isLine_of_trim h.name_trimmed h.name_oneLine
  have hvalue := Text.isLine_of_trim h.value_trimmed h.value_oneLine
  exact (hname.append hcolon).append hvalue

theorem HttpMessage.WellFormed.lines (hm : m.WellFormed)
    : ∀ line ∈ m.statusLine :: m.headers.map headerLine ++ [""], Text.IsLine line := by
  intro line hline
  rw [List.mem_append, List.mem_cons, List.mem_singleton] at hline
  rcases hline with (rfl | hline) | rfl
  . have hversion : Text.IsLine "HTTP/1.1 " := by decide
    have hspace : Text.IsLine " " := by decide
    exact ((hversion.append (Text.isLine_toString _)).append hspace).append hm.reason.1
  . obtain ⟨header, hheader, rfl⟩ := List.mem_map.mp hline
    exact isLine_headerLine (hm.headers header hheader)
  . decide

theorem lines_text (hm : m.WellFormed)
    : Text.lines m.text = m.statusLine :: (m.headers.map headerLine ++ "" :: Text.lines m.body) := by
  unfold HttpMessage.text
  rw [Text.lines_unlines hm.lines]
  simp

theorem trim_headerLine_ne_empty (header : String × String) : Text.trim (headerLine header) ≠ "" := by
  have hmem : ':' ∈ (headerLine header).toList := by simp [headerLine]
  have hvisible : ':' ∈ Text.trimList Text.isWhitespace (headerLine header).toList :=
    Text.mem_trimList hmem (by decide)
  intro hempty
  unfold Text.trim at hempty
  rw [← String.toList_inj, String.toList_ofList] at hempty
  rw [hempty] at hvisible
  cases hvisible

theorem splitOnce_headerLine {header : String × String} (h : HeaderOk header)
    : Text.splitOnce ":" (headerLine header) = some (header.1, String.ofList (' ' :: header.2.toList)) := by
  have hapart : Search.Apart ":".toList ":".toList := by decide
  have hname : ¬ ":".toList <:+: header.1.toList := fun hin => h.noColon (hin.subset (by simp))
  have hlist : (headerLine header).toList = header.1.toList ++ (":".toList ++ ' ' :: header.2.toList) := by
    simp [headerLine]
  unfold Text.splitOnce
  rw [hlist, hapart.splitOnce_eq hname, Option.map_some]
  dsimp only
  rw [String.ofList_toList]

theorem parseHeaders_headerLine {headers : List (String × String)} (h : ∀ header ∈ headers, HeaderOk header)
    (body : List String)
    : parseHeaders (headers.map headerLine ++ "" :: body)
        =
      (headers.map (fun header => ⟨header.1, [header.2]⟩), body) := by
  induction headers with
  | nil => rfl
  | cons header headers ih =>
    have hheader := h header List.mem_cons_self
    rw [List.map_cons, List.cons_append]
    unfold parseHeaders
    rw [if_neg (trim_headerLine_ne_empty header), ih (fun x hx => h x (List.mem_cons_of_mem _ hx)),
      splitOnce_headerLine hheader]
    dsimp only
    rw [trim_space, String.ofList_toList, hheader.name_trimmed, hheader.value_trimmed]
    rfl

theorem status_statusLine (m : HttpMessage)
    : ((Text.splitWhitespace m.statusLine)[1]?).bind (Text.parseUnsigned (2 ^ 16)) = some m.status.toNat := by
  have hline : m.statusLine
      = String.ofList ("HTTP/1.1".toList ++ ' ' :: ((toString m.status.toNat).toList ++ ' ' :: m.reason.toList)) := by
    rw [← String.toList_inj, String.toList_ofList]
    unfold HttpMessage.statusLine
    simp
  rw [hline, splitWhitespace_literal (by decide) (by decide), splitWhitespace_toString]
  exact Text.parseUnsigned_toString m.status.toNat_lt

theorem parseHttp_text (hm : m.WellFormed) {ls : List String}
    (hls : ∀ line ∈ ls, ¬ "HTTP/1.".toList <:+: line.toList)
    : (parseHttp (Text.unlines false ls ++ m.text)).map (fun http => (http.status, http.headers))
        =
      some (m.status, m.headers.map (fun header => ⟨header.1, [header.2]⟩)) := by
  have hapart : Search.Apart "HTTP/1.".toList "HTTP/1.".toList := by decide
  have hnone : ¬ "HTTP/1.".toList <:+: (Text.unlines false ls).toList :=
    Text.not_infix_unlines (by decide) (by decide) (by decide) hls false
  obtain ⟨rest, hrest⟩ : ∃ rest, m.text = "HTTP/1." ++ rest := by
    have hversion : m.statusLine = "HTTP/1." ++ ("1 " ++ toString m.status.toNat ++ " " ++ m.reason) := by
      have hsplit : "HTTP/1.1 " = "HTTP/1." ++ "1 " := by decide
      unfold HttpMessage.statusLine
      rw [hsplit]
      simp only [String.append_assoc]
    unfold HttpMessage.text
    rw [List.cons_append, Text.unlines, hversion]
    simp only [String.append_assoc]
    exact ⟨_, rfl⟩
  have hafter : Text.after "HTTP/1." (Text.unlines false ls ++ m.text) = some rest := by
    have hlist := hapart.after_eq hnone rest.toList
    unfold Text.after
    rw [hrest, String.toList_append, String.toList_append, hlist]
    simp
  have hstatus := status_statusLine m
  rw [Option.bind_eq_some_iff] at hstatus
  obtain ⟨token, htoken, hparse⟩ := hstatus
  unfold parseHttp
  rw [hafter, Option.bind_eq_bind, Option.bind_some, ← hrest, lines_text hm]
  dsimp only
  rw [Option.bind_eq_bind, Option.bind_some, htoken, Option.bind_some, hparse,
    parseHeaders_headerLine hm.headers]
  simp

theorem not_infix_statusLine (hm : m.WellFormed) {needle : String} (hneedle : needle ∈ searchStrings)
    (hclear : Search.Clear needle.toList "HTTP/1.1 ".toList) : ¬ needle.toList <:+: m.statusLine.toList := by
  have hline : m.statusLine.toList
      = [] ++ ("HTTP/1.1 ".toList ++ (((toString m.status.toNat).toList ++ [' ']) ++ m.reason.toList)) := by
    unfold HttpMessage.statusLine
    simp
  rw [hline]
  apply hclear.not_infix (not_infix_nil hneedle)
  apply not_infix_append hneedle
  . intro c hc
    rw [List.mem_append, List.mem_singleton] at hc
    rcases hc with hdigit | rfl
    . exact isUpper_of_isDigit (Text.isDigit_of_mem_toString hdigit)
    . decide
  . exact hm.reason.2 needle hneedle

theorem apart_searchStrings : ∀ needle ∈ searchStrings, Search.Apart needle.toList needle.toList := by
  decide +kernel

theorem valueOn_headerLine {header : String × String} (h : HeaderOk header) {needle : String}
    (hneedle : needle ∈ searchStrings) {a : List Char} (ha : needle.toList = a ++ ':' :: [' '])
    (hcolon : ':' ∉ a) (hname : header.2 ≠ "" → ¬ a <:+ header.1.toList)
    : valueOn needle (headerLine header) = none := by
  have hlist : (headerLine header).toList = header.1.toList ++ ':' :: ([' '] ++ header.2.toList) := by
    simp [headerLine]
  have hvalue : ¬ a ++ ':' :: [' '] <:+: [' '] ++ header.2.toList := by
    rw [← ha]
    have hspace : ∀ c ∈ [' '], c.isUpper = false := by
      intro c hc
      rw [List.mem_singleton.mp hc]
      decide
    exact not_infix_append hneedle hspace (h.value_free needle hneedle)
  by_cases hin : needle.toList <:+: (headerLine header).toList
  . rw [hlist, ha] at hin
    rcases Search.infix_append_cons hcolon h.noColon hin with ⟨hsuffix, -⟩ | hlater
    . -- The value behind the name is empty.
      have hempty : header.2 = "" := by
        by_contra hne
        exact hname hne hsuffix
      obtain ⟨front, hfront⟩ := hsuffix
      have hpre : ¬ needle.toList <:+: front := by
        intro hin
        apply h.noColon
        rw [← hfront]
        exact List.mem_append_left _ (hin.subset (by simp [ha]))
      have hafter := (apart_searchStrings needle hneedle).after_eq hpre []
      have hline : front ++ (needle.toList ++ []) = (headerLine header).toList := by
        rw [hlist, ha, hempty, ← hfront]
        simp
      rw [hline] at hafter
      have hread := valueOn_of_some hafter
      rw [String.ofList_toList] at hread
      rw [hread]
      rfl
    . exact absurd hlater hvalue
  . exact valueOn_absent hin

theorem valueAfter_text (hm : m.WellFormed) {needle : String} (hneedle : needle ∈ searchStrings)
    (hclear : Search.Clear needle.toList "HTTP/1.1 ".toList) {a : List Char}
    (ha : needle.toList = a ++ ':' :: [' ']) (hcolon : ':' ∉ a)
    (hname : ∀ header ∈ m.headers, header.2 ≠ "" → ¬ a <:+ header.1.toList)
    : valueAfter m.text needle = none := by
  unfold valueAfter
  rw [lines_text hm, List.findSome?_eq_none_iff]
  intro line hline
  rw [List.mem_cons, List.mem_append, List.mem_cons] at hline
  rcases hline with rfl | hline | rfl | hline
  . exact valueOn_absent (not_infix_statusLine hm hneedle hclear)
  . obtain ⟨header, hheader, rfl⟩ := List.mem_map.mp hline
    exact valueOn_headerLine (hm.headers header hheader) hneedle ha hcolon (hname header hheader)
  . exact valueOn_absent (not_infix_nil hneedle)
  . apply valueOn_absent
    exact fun hin => hm.body needle hneedle (hin.trans (Text.infix_of_mem_lines hline))

theorem not_suffix_name {header : String × String} (h : HeaderOk header) {a : List Char}
    (ha : a.getLast? = some ' ') : ¬ a <:+ header.1.toList := by
  rintro ⟨front, hfront⟩
  obtain ⟨s, c, hs, hc⟩ := Text.exists_last_of_trim_eq_self h.name_trimmed h.name_ne_empty
  have hlast := congrArg List.getLast? hfront
  rw [List.getLast?_append, ha, hs, List.getLast?_concat] at hlast
  cases hlast
  cases hc

end Http

def Recovered (t : Transcript) (m : HttpMessage) (response : ProbeResponse) : Prop :=
  response.handshakeSuccess = true
    ∧ response.negotiated = ⟨some t.version, some t.cipher, some t.group, some t.signatureType⟩
    ∧ response.evidence.bytesSent = t.bytesWritten
    ∧ response.evidence.bytesReceived = t.bytesRead
    ∧ response.http.map (fun http => (http.status, http.headers))
        = some (m.status, m.headers.map (fun header => ⟨header.1, [header.2]⟩))
    ∧ response.failedStage = .complete

def GroupLine.Undisturbed (line : GroupLine) (headers : List (String × String)) : Prop :=
  line ≠ .negotiated →
    ∀ header ∈ headers, header.2 ≠ "" → ¬ "Negotiated TLS1.3 group".toList <:+ header.1.toList

section Report

variable {t : Transcript} {ls : List String} {m : HttpMessage}

theorem keeps_text (hm : m.WellFormed) (hheaders : t.groupLine.Undisturbed m.headers) : Keeps t m.text := by
  have hprotocol : ∀ header ∈ m.headers, header.2 ≠ "" → ¬ "Protocol  ".toList <:+ header.1.toList :=
    fun header hheader _ => not_suffix_name (hm.headers header hheader) (by decide)
  have hcipher : ∀ header ∈ m.headers, header.2 ≠ "" → ¬ "Cipher    ".toList <:+ header.1.toList :=
    fun header hheader _ => not_suffix_name (hm.headers header hheader) (by decide)
  constructor
  . intro _
    exact valueAfter_text hm (by simp [searchStrings]) (by decide +kernel) (by decide) (by decide) hprotocol
  . intro _
    exact valueAfter_text hm (by simp [searchStrings]) (by decide +kernel) (by decide) (by decide) hcipher
  . intro hline
    exact valueAfter_text hm (by simp [searchStrings]) (by decide +kernel) (by decide) (by decide) (hheaders hline)

theorem not_http_of_mem_lines (ht : t.WellFormed) {line : String} (hline : line ∈ t.lines)
    : ¬ "HTTP/1.".toList <:+: line.toList := by
  have hneedle : "HTTP/1." ∈ searchStrings := by simp [searchStrings]
  have hlabels : ∀ label ∈ labels, ¬ "HTTP/1.".toList <:+: label.toList := by decide +kernel
  rcases mem_lines.mp hline with hother | rfl | ⟨f, hf, rfl⟩
  . exact (ht.other line hother).2 _ hneedle
  . exact not_infix_newLine hneedle (by decide) ht
  . obtain ⟨hknown, htext⟩ := ht.fields f hf
    exact not_infix_field hneedle hknown (hlabels _ hknown) htext.free

section Fields

variable (adapter : String) (request : ProbeRequest) (stdout stderr : String)

theorem parseOpenssl_success
    : (parseOpenssl adapter request stdout stderr).handshakeSuccess
        =
      ((opensslNegotiated stdout).cipherSuite.isSome || (parseHttp stdout).isSome) := rfl

theorem parseOpenssl_stage
    : (parseOpenssl adapter request stdout stderr).failedStage
        =
      if (parseOpenssl adapter request stdout stderr).handshakeSuccess then
        if (parseHttp stdout).isSome then .complete else .httpRequest
      else
        .tlsHandshake := rfl

theorem parseOpenssl_evidence
    : (parseOpenssl adapter request stdout stderr).evidence
        =
      { bytesSent := (byteCounts stdout).1, bytesReceived := (byteCounts stdout).2 } := rfl

end Fields

theorem recovered (ht : t.WellFormed) (hm : m.WellFormed) (hheaders : t.groupLine.Undisturbed m.headers)
    (hcipher : t.cipher ∉ cipherPlaceholders) (hgroup : t.group ∉ placeholders .openSsl)
    (hls : ls.Perm t.lines) (adapter : String) (request : ProbeRequest) (stderr : String)
    : Recovered t m (parseOpenssl adapter request (Text.unlines false ls ++ m.text) stderr) := by
  have hkeeps := keeps_text hm hheaders
  have hsuite := cipherSuite_eq ht hls hkeeps
  rw [if_neg hcipher] at hsuite
  have hnegotiated : opensslNegotiated (Text.unlines false ls ++ m.text)
      = ⟨some t.version, some t.cipher, some t.group, some t.signatureType⟩ := by
    rw [← tlsVersion_eq ht hls hkeeps, ← hsuite, ← group_eq ht hls hkeeps hgroup,
      ← certVerifySigAlg_eq ht hls m.text]
  have hhttp := parseHttp_text hm (fun line hline => not_http_of_mem_lines ht (hls.mem_iff.mp hline))
  have hsome : (parseHttp (Text.unlines false ls ++ m.text)).isSome = true := by
    rw [← Option.isSome_map, hhttp]
    rfl
  have hcounts := byteCounts_eq ht hls m.text
  have hsuccess : (parseOpenssl adapter request (Text.unlines false ls ++ m.text) stderr).handshakeSuccess = true := by
    rw [parseOpenssl_success, hsome, Bool.or_true]
  refine ⟨hsuccess, hnegotiated, ?_, ?_, hhttp, ?_⟩
  . rw [parseOpenssl_evidence, hcounts]
  . rw [parseOpenssl_evidence, hcounts]
  . rw [parseOpenssl_stage, hsuccess, hsome]
    rfl

end Report

def labResponse : HttpMessage :=
  {
    status := 200
    reason := "OK"
    headers := [("Server", "nginx/1.28.1"), ("Content-Type", "application/json")]
    body := "\x7b\x7d\n"
    crlf := false
  }

end cli

end PqCas
