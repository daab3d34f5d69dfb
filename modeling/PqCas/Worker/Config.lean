import PqCas.Lib.Scan
import PqCas.Lib.SortedMap
import PqCas.Worker.Adapters

/-!
The adapters of a deployment as they are written in the environment of a worker (`config.rs`): pairs of a
name and a base URL, separated by commas.
-/

namespace PqCas

namespace config

def trimEndMatches (c : Char) (s : String) : String :=
  String.ofList (s.toList.rdropWhile (· = c))

def adapterEntry (entry : String) : Option (String × String) :=
  match Text.splitOnce "=" entry with
  | none => none
  | some (name, url) =>
    let name := Text.trim name
    let url := trimEndMatches '/' (Text.trim url)
    if name ≠ "" ∧ url ≠ "" then
      some (name, url)
    else
      none

def adapterMap (adapters : String) : AdapterRegistry :=
  {
    bases := SortedMap.ofList ((Text.split ',' adapters).filterMap adapterEntry)
    sorted := SortedMap.sorted_ofList _
  }

section Entries

def Blank (s : String) : Prop :=
  ∀ c ∈ s.toList, Text.isWhitespace c = true

structure NameOk (name : String) : Prop where
  ne_empty : name ≠ ""
  trimmed : Text.trim name = name
  no_equals : '=' ∉ name.toList
  no_comma : ',' ∉ name.toList

structure UrlOk (url : String) : Prop where
  ne_empty : url ≠ ""
  no_slash : url.toList.getLast? ≠ some '/'
  no_comma : ',' ∉ url.toList

theorem blank_trimList {s : List Char} (h : ∀ c ∈ s, Text.isWhitespace c = true)
    : Text.trimList Text.isWhitespace s = [] := by
  unfold Text.trimList
  rw [List.dropWhile_eq_nil_iff.mpr h, List.reverse_nil, List.dropWhile_nil, List.reverse_nil]

theorem trimList_blank_append {pad s : List Char} (h : ∀ c ∈ pad, Text.isWhitespace c = true)
    : Text.trimList Text.isWhitespace (pad ++ s) = Text.trimList Text.isWhitespace s := by
  unfold Text.trimList
  rw [List.dropWhile_append_of_pos h]

theorem trimList_append_blank {s pad : List Char} (h : ∀ c ∈ pad, Text.isWhitespace c = true)
    : Text.trimList Text.isWhitespace (s ++ pad) = Text.trimList Text.isWhitespace s := by
  induction pad using List.reverseRecOn with
  | nil => rw [List.append_nil]
  | append_singleton pad c ih =>
    rw [← List.append_assoc, Text.trimList_append_space _ (h c (by simp))]
    exact ih (fun d hd => h d (by simp [hd]))

theorem trim_padded {left right s : String} (hleft : Blank left) (hright : Blank right)
    : Text.trim (left ++ s ++ right) = Text.trim s := by
  unfold Text.trim
  rw [String.toList_append, String.toList_append, trimList_append_blank hright,
    trimList_blank_append hleft]

theorem trim_blank {s : String} (h : Blank s) : Text.trim s = "" := by
  unfold Text.trim
  rw [blank_trimList h]

theorem splitOnce_equals {name rest : String} (h : '=' ∉ name.toList)
    : Text.splitOnce "=" (name ++ "=" ++ rest) = some (name, rest) := by
  have hsplit := Search.splitOnce_of_not_mem h rest.toList
  have htext : (name ++ "=" ++ rest).toList = name.toList ++ '=' :: rest.toList := by simp
  have hsep : "=".toList = ['='] := rfl
  unfold Text.splitOnce
  rw [htext, hsep, hsplit]
  simp

theorem splitOnce_of_no_equals {s : String} (h : '=' ∉ s.toList) : Text.splitOnce "=" s = none := by
  have hsplit : Search.splitOnce ['='] s.toList = none := by
    generalize s.toList = cs at h
    induction cs with
    | nil => rfl
    | cons c cs ih =>
      rw [List.mem_cons, not_or] at h
      have hne : ¬ ['='] <+: c :: cs := by simpa [List.prefix_cons_iff] using h.1
      rw [Search.splitOnce, if_neg hne, ih h.2]
      rfl
  have hsep : "=".toList = ['='] := rfl
  unfold Text.splitOnce
  rw [hsep, hsplit]
  rfl

theorem dropWhile_of_trimmed {s : List Char} (h : Text.trimList Text.isWhitespace s = s)
    : s.dropWhile Text.isWhitespace = s := by
  have hlength := (Text.prefix_trimList Text.isWhitespace s).length_le
  rw [h] at hlength
  exact (List.dropWhile_suffix _).eq_of_length_le hlength

theorem trimList_append_slashes {s : List Char} (h : Text.trimList Text.isWhitespace s = s) (hne : s ≠ [])
    (n : Nat)
    : Text.trimList Text.isWhitespace (s ++ List.replicate n '/') = s ++ List.replicate n '/' := by
  cases n with
  | zero => simpa using h
  | succ n =>
    have hslash : Text.isWhitespace '/' = false := by decide
    have hdrop : (s ++ List.replicate n '/').dropWhile Text.isWhitespace = s ++ List.replicate n '/' := by
      rw [List.dropWhile_append, dropWhile_of_trimmed h]
      simp [hne]
    rw [List.replicate_succ', ← List.append_assoc, Text.trimList_append_singleton _ hslash, hdrop]

theorem trimEndMatches_slashes {s : List Char} (h : s.getLast? ≠ some '/') (n : Nat)
    : (s ++ List.replicate n '/').rdropWhile (· = '/') = s := by
  induction n with
  | zero =>
    rw [List.replicate_zero, List.append_nil, List.rdropWhile_eq_self_iff]
    intro hne hlast
    apply h
    rw [List.getLast?_eq_getLast_of_ne_nil hne]
    simpa using hlast
  | succ n ih =>
    rw [List.replicate_succ', ← List.append_assoc, List.rdropWhile_concat_pos _ _ _ (by simp)]
    exact ih

end Entries

inductive Written where
  | entry (name url : String) (left after before right : String) (slashes : Nat)
  /-- Not a pair. -/
  | bare (text : String)
  /-- A pair without a name. -/
  | nameless (left url : String)
  /-- A pair without a URL. -/
  | urlless (name before right : String) (slashes : Nat)

namespace Written

def slashed (n : Nat) : String :=
  String.ofList (List.replicate n '/')

def text (w : Written) : String :=
  match w with
  | .entry name url left after before right slashes =>
    left ++ name ++ after ++ "=" ++ (before ++ (url ++ slashed slashes) ++ right)
  | .bare text => text
  | .nameless left url => left ++ "=" ++ url
  | .urlless name before right slashes => name ++ "=" ++ (before ++ slashed slashes ++ right)

def pair (w : Written) : Option (String × String) :=
  match w with
  | .entry name url .. => some (name, url)
  | _ => none

def WellFormed (w : Written) : Prop :=
  match w with
  | .entry name url left after before right _ =>
    NameOk name ∧ UrlOk url ∧ Text.trim url = url
      ∧ Blank left ∧ Blank after ∧ Blank before ∧ Blank right
  | .bare text => '=' ∉ text.toList ∧ ',' ∉ text.toList
  | .nameless left url => Blank left ∧ ',' ∉ url.toList
  | .urlless name before right _ =>
    '=' ∉ name.toList ∧ ',' ∉ name.toList ∧ Blank before ∧ Blank right

theorem not_mem_blank {s : String} (h : Blank s) {c : Char} (hc : Text.isWhitespace c = false)
    : c ∉ s.toList := by
  intro hmem
  rw [h c hmem] at hc
  cases hc

theorem not_mem_slashed {c : Char} (hc : c ≠ '/') (n : Nat) : c ∉ (slashed n).toList := by
  unfold slashed
  rw [String.toList_ofList, List.mem_replicate]
  exact fun h => hc h.2

theorem no_comma {w : Written} (h : w.WellFormed) : ',' ∉ w.text.toList := by
  have hcomma : Text.isWhitespace ',' = false := by decide
  have hblank : ∀ {s : String}, Blank s → ',' ∉ s.toList := fun hs => not_mem_blank hs hcomma
  have hslashed := fun n => not_mem_slashed (show ',' ≠ '/' by decide) n
  have hequals : ',' ∉ "=".toList := by decide
  cases w with
  | entry name url left after before right slashes =>
    obtain ⟨hname, hurl, -, hleft, hafter, hbefore, hright⟩ := h
    simp only [text, String.toList_append, List.mem_append, not_or]
    exact ⟨⟨⟨⟨hblank hleft, hname.no_comma⟩, hblank hafter⟩, hequals⟩,
      ⟨hblank hbefore, hurl.no_comma, hslashed slashes⟩, hblank hright⟩
  | bare text => exact h.2
  | nameless left url =>
    simp only [text, String.toList_append, List.mem_append, not_or]
    exact ⟨⟨hblank h.1, hequals⟩, h.2⟩
  | urlless name before right slashes =>
    obtain ⟨-, hname, hbefore, hright⟩ := h
    simp only [text, String.toList_append, List.mem_append, not_or]
    exact ⟨⟨hname, hequals⟩, ⟨hblank hbefore, hslashed slashes⟩, hblank hright⟩

theorem trim_slashed (n : Nat) : Text.trim (slashed n) = slashed n := by
  apply Text.trim_eq_self
  intro c hc
  unfold slashed at hc
  rw [String.toList_ofList, List.mem_replicate] at hc
  rw [hc.2]
  decide

theorem adapterEntry_text {w : Written} (h : w.WellFormed) : adapterEntry w.text = w.pair := by
  have hequals : Text.isWhitespace '=' = false := by decide
  cases w with
  | entry name url left after before right slashes =>
    obtain ⟨hname, hurl, htrim, hleft, hafter, hbefore, hright⟩ := h
    have hno : '=' ∉ (left ++ name ++ after).toList := by
      simp only [String.toList_append, List.mem_append, not_or]
      exact ⟨⟨not_mem_blank hleft hequals, hname.no_equals⟩, not_mem_blank hafter hequals⟩
    have hurlList : Text.trimList Text.isWhitespace url.toList = url.toList := by
      have hlist := congrArg String.toList htrim
      rwa [Text.trim, String.toList_ofList] at hlist
    have hne : url.toList ≠ [] := by simpa [String.toList_eq_nil_iff] using hurl.ne_empty
    have hslashes : Text.trim (url ++ slashed slashes) = url ++ slashed slashes := by
      rw [← String.toList_inj]
      simp [Text.trim, slashed, trimList_append_slashes hurlList hne]
    have hread : trimEndMatches '/' (url ++ slashed slashes) = url := by
      rw [← String.toList_inj]
      simp only [trimEndMatches, slashed, String.toList_append, String.toList_ofList]
      exact trimEndMatches_slashes hurl.no_slash slashes
    unfold adapterEntry text
    rw [splitOnce_equals hno]
    dsimp only
    rw [trim_padded hleft hafter, hname.trimmed, trim_padded hbefore hright, hslashes, hread]
    exact if_pos ⟨hname.ne_empty, hurl.ne_empty⟩
  | bare text =>
    unfold adapterEntry Written.text
    rw [splitOnce_of_no_equals h.1]
    rfl
  | nameless left url =>
    unfold adapterEntry text
    rw [splitOnce_equals (not_mem_blank h.1 hequals)]
    dsimp only
    rw [trim_blank h.1]
    exact if_neg (fun hne => hne.1 rfl)
  | urlless name before right slashes =>
    obtain ⟨hname, -, hbefore, hright⟩ := h
    have hread : trimEndMatches '/' (slashed slashes) = "" := by
      rw [← String.toList_inj]
      simp only [trimEndMatches, slashed, String.toList_ofList]
      exact trimEndMatches_slashes (s := []) (by simp) slashes
    unfold adapterEntry text
    rw [splitOnce_equals hname]
    dsimp only
    rw [trim_padded hbefore hright, trim_slashed, hread]
    exact if_neg (fun hne => hne.2 rfl)

end Written

theorem filterMap_written {ws : List Written} (h : ∀ w ∈ ws, w.WellFormed)
    : (ws.map Written.text).filterMap adapterEntry = ws.filterMap Written.pair := by
  rw [List.filterMap_map]
  apply List.filterMap_congr
  exact fun w hw => Written.adapterEntry_text (h w hw)

theorem split_written {ws : List Written} (h : ∀ w ∈ ws, w.WellFormed)
    : (Text.split ',' (Text.join "," (ws.map Written.text))).filterMap adapterEntry
        =
      ws.filterMap Written.pair := by
  cases ws with
  | nil => decide
  | cons w ws =>
    have hsep : ",".toList = [','] := rfl
    have hne : (w :: ws).map Written.text ≠ [] := by simp
    have hcommas : ∀ text ∈ (w :: ws).map Written.text, ',' ∉ text.toList := by
      intro text htext
      obtain ⟨w', hw', rfl⟩ := List.mem_map.mp htext
      exact Written.no_comma (h w' hw')
    rw [(Text.split_join_iff hsep hne).mpr hcommas, filterMap_written h]

theorem eq_of_splitOnce {c : Char} {s front rest : List Char}
    (h : Search.splitOnce [c] s = some (front, rest)) : s = front ++ c :: rest ∧ c ∉ front := by
  induction s generalizing front with
  | nil => cases h
  | cons d s ih =>
    unfold Search.splitOnce at h
    split at h
    . next hprefix =>
      obtain rfl : c = d := by simpa [List.prefix_cons_iff] using hprefix
      cases h
      exact ⟨rfl, List.not_mem_nil⟩
    . next hprefix =>
      have hne : c ≠ d := by simpa [List.prefix_cons_iff] using hprefix
      obtain ⟨⟨front', rest'⟩, hsplit, heq⟩ := Option.map_eq_some_iff.mp h
      cases heq
      obtain ⟨rfl, hmem⟩ := ih hsplit
      exact ⟨rfl, by simp [hne, hmem]⟩

theorem mem_of_mem_trim {s : String} {c : Char} (h : c ∈ (Text.trim s).toList) : c ∈ s.toList := by
  unfold Text.trim at h
  rw [String.toList_ofList] at h
  exact (Text.infix_trimList _ _).subset h

theorem nameOk_trim {front : String} (hequals : '=' ∉ front.toList) (hcomma : ',' ∉ front.toList)
    (hne : Text.trim front ≠ "") : NameOk (Text.trim front) := by
  constructor
  case ne_empty => exact hne
  case trimmed => exact Text.trim_trim front
  case no_equals => exact fun h => hequals (mem_of_mem_trim h)
  case no_comma => exact fun h => hcomma (mem_of_mem_trim h)

theorem urlOk_trimEndMatches {s : String} (hcomma : ',' ∉ s.toList) (hne : trimEndMatches '/' s ≠ "")
    : UrlOk (trimEndMatches '/' s) := by
  constructor
  case ne_empty => exact hne
  case no_slash =>
    intro hlast
    unfold trimEndMatches at hlast
    rw [String.toList_ofList] at hlast
    have hnil := List.ne_nil_of_mem (List.mem_of_getLast? hlast)
    have hnot := List.rdropWhile_last_not (fun c : Char => decide (c = '/')) s.toList hnil
    rw [List.getLast?_eq_getLast_of_ne_nil hnil, Option.some.injEq] at hlast
    rw [hlast] at hnot
    exact hnot (by decide)
  case no_comma =>
    intro hmem
    unfold trimEndMatches at hmem
    rw [String.toList_ofList] at hmem
    exact hcomma ((List.rdropWhile_prefix _ _).subset hmem)

theorem splitOnce_eq_some {s front rest : String} (h : Text.splitOnce "=" s = some (front, rest))
    : s.toList = front.toList ++ '=' :: rest.toList ∧ '=' ∉ front.toList := by
  have hsep : "=".toList = ['='] := rfl
  unfold Text.splitOnce at h
  rw [hsep] at h
  obtain ⟨parts, hparts, heq⟩ := Option.map_eq_some_iff.mp h
  rw [Prod.mk.injEq] at heq
  rw [← heq.1, ← heq.2, String.toList_ofList, String.toList_ofList]
  exact eq_of_splitOnce hparts

theorem adapterEntry_ok {entry : String} {e : String × String} (hcomma : ',' ∉ entry.toList)
    (h : adapterEntry entry = some e) : NameOk e.1 ∧ UrlOk e.2 := by
  unfold adapterEntry at h
  cases hsplit : Text.splitOnce "=" entry with
  | none =>
    rw [hsplit] at h
    cases h
  | some parts =>
    obtain ⟨hentry, hequals⟩ := splitOnce_eq_some hsplit
    rw [hentry, List.mem_append, List.mem_cons, not_or, not_or] at hcomma
    rw [hsplit] at h
    dsimp only at h
    by_cases hne : Text.trim parts.1 ≠ "" ∧ trimEndMatches '/' (Text.trim parts.2) ≠ ""
    . rw [if_pos hne, Option.some.injEq] at h
      rw [← h]
      refine ⟨nameOk_trim hequals hcomma.1 hne.1, urlOk_trimEndMatches ?_ hne.2⟩
      exact fun hmem => hcomma.2.2 (mem_of_mem_trim hmem)
    . rw [if_neg hne] at h
      cases h

/--
Whatever the list looks like, the adapters that are configured have a name and a URL that a path can be
put behind. What is written as entries with any spacing, in any order and with anything else between
them is what is configured, the last one of a name.
-/
theorem adapterMap_reads
    : (∀ (text : String) (entry : String × String), entry ∈ (adapterMap text).bases →
        NameOk entry.1 ∧ UrlOk entry.2)
      ∧ ∀ ws : List Written, (∀ w ∈ ws, w.WellFormed) → ∀ name,
        (adapterMap (Text.join "," (ws.map Written.text))).bases.lookup name
          =
        (ws.filterMap Written.pair).reverse.lookup name := by
  constructor
  . intro text entry hentry
    obtain ⟨piece, hpiece, hread⟩ := List.mem_filterMap.mp (SortedMap.mem_ofList hentry)
    apply adapterEntry_ok _ hread
    obtain ⟨cs, hcs, rfl⟩ := List.mem_map.mp hpiece
    rw [String.toList_ofList]
    exact Search.not_mem_of_mem_splitOn hcs
  . intro ws hws name
    unfold adapterMap
    dsimp only
    rw [SortedMap.lookup_ofList, split_written hws]

def labList : List Written :=
  [
    .entry "openssl" "http://a:9100" "" "" "" "" 1,
    .entry "go" "http://b:9100" " " " " " " " " 0,
    .bare "broken"
  ]

theorem labList_text
    : Text.join "," (labList.map Written.text) = "openssl=http://a:9100/, go = http://b:9100 ,broken" := by
  decide

theorem labList_wellFormed : ∀ w ∈ labList, w.WellFormed := by
  have hblank : Blank " " := by simp [Blank, Text.isWhitespace]
  have hempty : Blank "" := by simp [Blank]
  have hname : NameOk "openssl" ∧ NameOk "go" := by
    constructor <;> constructor <;> decide
  have hurl : UrlOk "http://a:9100" ∧ UrlOk "http://b:9100" := by
    constructor <;> constructor <;> decide
  intro w hw
  simp only [labList, List.mem_cons, List.not_mem_nil, or_false] at hw
  rcases hw with rfl | rfl | rfl
  . exact ⟨hname.1, hurl.1, by decide, hempty, hempty, hempty, hempty⟩
  . exact ⟨hname.2, hurl.2, by decide, hblank, hblank, hblank, hblank⟩
  . exact ⟨by decide, by decide⟩

theorem adapterMap_reads_lab
    : (adapterMap "openssl=http://a:9100/, go = http://b:9100 ,broken").bases.lookup "openssl"
          = some "http://a:9100"
        ∧ (adapterMap "openssl=http://a:9100/, go = http://b:9100 ,broken").bases.lookup "go"
          = some "http://b:9100" := by
  have hread := adapterMap_reads.2 labList labList_wellFormed
  rw [labList_text] at hread
  rw [hread, hread]
  decide

end config

end PqCas
