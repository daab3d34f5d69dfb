import PqCas.Cli.Forged

/-!
How the clients print the negotiated group, and how a parser reads it off the line.
-/

namespace PqCas

namespace cli

inductive LineKind where
  | plain
  | tempKey
  deriving DecidableEq

def LineKind.read (kind : LineKind) (value : String) : String :=
  match kind with
  | .plain => value
  | .tempKey => stripKeySize value

def groupNeedles (backend : Backend) : List (String × LineKind) :=
  match backend with
  | .openSsl =>
    [
      ("Negotiated TLS1.3 group: ", .plain),
      ("Peer Temp Key: ", .tempKey),
      ("Server Temp Key: ", .tempKey)
    ]
  | .boringSsl => [("ECDHE group: ", .plain), ("ECDHE curve: ", .plain), ("Group: ", .plain)]
  | .wolfSsl => [("Using Post-Quantum KEM: ", .plain), ("SSL curve name is ", .plain)]
  | .mock => []

def placeholders (backend : Backend) : List String :=
  match backend with
  | .openSsl => ["<NULL>", "(NONE)"]
  | _ => []

def groupText (backend : Backend) (stdout stderr : String) : String :=
  match backend with
  | .openSsl => stdout
  | .boringSsl => stderr
  | .wolfSsl => stdout ++ "\n" ++ stderr
  | .mock => ""

def groupOf (backend : Backend) (text : String) : Option String :=
  ((groupNeedles backend).findSome? (fun (needle, kind) => (valueAfter text needle).map kind.read)).filter
    (fun g => g ∉ placeholders backend)

theorem negotiated_group {backend : Backend} {adapter : String} {request : ProbeRequest}
    {stdout stderr : String} {response : ProbeResponse}
    (h : parse backend adapter request stdout stderr = some response)
    : response.negotiated.group = groupOf backend (groupText backend stdout stderr) := by
  cases backend with
  | openSsl =>
    cases h
    simp only [parseOpenssl, buildResponse, opensslNegotiated, groupOf, groupNeedles, groupText,
      placeholders, List.findSome?_cons, List.findSome?_nil]
    cases valueAfter stdout "Negotiated TLS1.3 group: " <;>
      cases valueAfter stdout "Peer Temp Key: " <;>
      cases valueAfter stdout "Server Temp Key: " <;>
      simp [LineKind.read, not_or]
  | boringSsl =>
    cases h
    simp only [parseBoringssl, buildResponse, boringsslNegotiated, groupOf, groupNeedles, groupText,
      placeholders, List.findSome?_cons, List.findSome?_nil]
    cases valueAfter stderr "ECDHE group: " <;> cases valueAfter stderr "ECDHE curve: " <;>
      cases valueAfter stderr "Group: " <;> simp [LineKind.read, Option.filter]
  | wolfSsl =>
    cases h
    simp only [parseWolfssl, buildResponse, wolfsslNegotiated, groupOf, groupNeedles, groupText,
      placeholders, List.findSome?_cons, List.findSome?_nil]
    cases valueAfter (stdout ++ "\n" ++ stderr) "Using Post-Quantum KEM: " <;>
      cases valueAfter (stdout ++ "\n" ++ stderr) "SSL curve name is " <;> simp [LineKind.read, Option.filter]
  | mock => cases h

/--
How a client prints a group behind a search string. OpenSSL adds the key size of a temporary key, and
for the NIST curves the mechanism.
-/
inductive Layout where
  | plain
  | bare
  | keySize (bits : Nat)
  | mechanism (ephemeral : Bool) (bits : Nat)

def Layout.kind (layout : Layout) : LineKind :=
  match layout with
  | .plain => .plain
  | .bare | .keySize _ | .mechanism _ _ => .tempKey

def sizeText (bits : Nat) : List Char :=
  ' ' :: (toString bits).toList ++ " bits".toList

def mechanismName (ephemeral : Bool) : String :=
  if ephemeral then "ECDHE" else "ECDH"

def Layout.text (layout : Layout) (name : List Char) : List Char :=
  match layout with
  | .plain | .bare => name
  | .keySize bits => name ++ ',' :: sizeText bits
  | .mechanism ephemeral bits =>
    (mechanismName ephemeral).toList ++ ',' :: ' ' :: name ++ ',' :: sizeText bits

def isMechanism (name : String) : Bool :=
  Text.eqIgnoreAsciiCase name "ECDH" || Text.eqIgnoreAsciiCase name "ECDHE"

def Layout.Fits (layout : Layout) (name : String) : Prop :=
  match layout with
  | .plain => name ≠ ""
  | .bare => name ≠ "" ∧ ',' ∉ name.toList
  | .keySize _ => ',' ∉ name.toList ∧ isMechanism name = false
  | .mechanism _ _ => ',' ∉ name.toList

section Lines

variable {needle : String}

def shown (rest : List Char) : Option String :=
  let value := Text.trim (String.ofList rest)
  if value ≠ "" then some value else none

theorem valueOn_of_some {line rest : List Char} (h : Search.after needle.toList line = some rest)
    : valueOn needle (String.ofList line) = shown rest := by
  simp [valueOn, Text.after, h, shown]

theorem valueOn_of_none {line : List Char} (h : Search.after needle.toList line = none)
    : valueOn needle (String.ofList line) = none := by
  simp [valueOn, Text.after, h]

theorem valueOn_of_absent {line : List Char} (h : ¬ needle.toList <:+: line)
    : valueOn needle (String.ofList line) = none :=
  valueOn_of_none (Search.after_eq_none_iff.mpr h)

theorem shown_cr (rest : List Char) : shown (rest ++ ['\r']) = shown rest := by
  have hspace : Text.isWhitespace '\r' = true := by decide
  simp [shown, Text.trim, Text.trimList_append_space rest hspace]

theorem valueOn_cr (hne : needle ≠ "") (hcr : '\r' ∉ needle.toList) (line : List Char)
    : valueOn needle (String.ofList (line ++ ['\r'])) = valueOn needle (String.ofList line) := by
  have hneList : needle.toList ≠ [] := by simpa using hne
  cases hafter : Search.after needle.toList line with
  | some rest =>
    rw [valueOn_of_some hafter, valueOn_of_some (Search.after_append_right hafter ['\r']), shown_cr]
  | none =>
    rw [valueOn_of_none hafter]
    apply valueOn_of_absent
    rw [Search.infix_append_cons_iff hcr hneList]
    rintro (hin | hnil)
    . exact Search.after_eq_none_iff.mp hafter hin
    . exact hneList (List.infix_nil.mp hnil)

theorem valueOn_chomp (hne : needle ≠ "") (hcr : '\r' ∉ needle.toList) (line : List Char)
    : valueOn needle (String.ofList (Text.chomp (line ++ ['\n']))) = valueOn needle (String.ofList line) := by
  by_cases hlast : line.getLast? = some '\r'
  . obtain ⟨l, rfl⟩ : ∃ l, line = l ++ ['\r'] := List.getLast?_eq_some_iff.mp hlast
    have hchomp : Text.chomp (l ++ ['\r'] ++ ['\n']) = l := by
      rw [List.append_assoc]
      exact Text.chomp_line_cr l
    rw [hchomp, valueOn_cr hne hcr]
  . rw [Text.chomp_line hlast]

theorem valueAfter_unterminated {line : List Char} (hline : '\n' ∉ line) (hne : needle ≠ "")
    : valueAfter (String.ofList line) needle = valueOn needle (String.ofList line) := by
  cases line with
  | nil =>
    rw [valueOn_of_absent]
    . rfl
    . rw [List.infix_nil]
      simpa using hne
  | cons c line =>
    unfold valueAfter Text.lines
    rw [String.toList_ofList, Search.splitInclusive_of_not_mem _ hline (by simp)]
    simp [Text.chomp_of_not_mem hline]

def EndsLine (post : String) : Prop :=
  post = "" ∨ (∃ t, post = "\n" ++ t) ∨ ∃ t, post = "\r\n" ++ t

theorem valueAfter_between {front post : String} {line : List Char} (hne : needle ≠ "")
    (hcr : '\r' ∉ needle.toList) (hfront : front = "" ∨ ∃ t, front = t ++ "\n")
    (hnofront : ¬ needle.toList <:+: front.toList) (hline : '\n' ∉ line) (hpost : EndsLine post)
    (hnopost : ¬ needle.toList <:+: post.toList)
    : valueAfter (front ++ String.ofList line ++ post) needle = valueOn needle (String.ofList line) := by
  have hrest : ∀ pre t, post = pre ++ t → valueAfter t needle = none := by
    intro pre t heq
    apply valueAfter_eq_none
    intro hin
    apply hnopost
    rw [heq, String.toList_append]
    exact hin.trans (List.suffix_append _ _).isInfix
  rw [String.append_assoc, valueAfter_front hfront, valueAfter_eq_none hnofront, Option.none_or]
  rcases hpost with rfl | ⟨t, rfl⟩ | ⟨t, rfl⟩
  . rw [String.append_empty]
    exact valueAfter_unterminated hline hne
  . rw [← String.append_assoc, valueAfter_line hline, valueOn_chomp hne hcr, hrest _ t rfl, Option.or_none]
  . have htext : String.ofList line ++ ("\r\n" ++ t) = String.ofList (line ++ ['\r']) ++ "\n" ++ t := by
      have hcrlf : "\r\n" = String.ofList ['\r'] ++ "\n" := by decide
      rw [String.ofList_append, hcrlf]
      simp only [String.append_assoc]
    have hlineCr : '\n' ∉ line ++ ['\r'] := by simp [hline]
    rw [htext, valueAfter_line hlineCr, valueOn_chomp hne hcr, valueOn_cr hne hcr, hrest _ t rfl,
      Option.or_none]

end Lines

section Reading

theorem not_mem_sizeText {c : Char} (hdigit : c.isDigit = false) (hbits : c ∉ " bits".toList) (bits : Nat)
    : c ∉ sizeText bits := by
  unfold sizeText
  simp only [List.cons_append, List.mem_cons, List.mem_append, not_or]
  refine ⟨?_, ?_, hbits⟩
  . rintro rfl
    exact hbits (by decide)
  . intro hmem
    rw [Text.isDigit_of_mem_toString hmem] at hdigit
    cases hdigit

theorem sizeText_eq (bits : Nat)
    : ∃ s, sizeText bits = s ++ ['s'] ∧ 'b' ∈ sizeText bits := by
  refine ⟨' ' :: (toString bits).toList ++ " bit".toList, ?_, ?_⟩
  . have hbits : " bits".toList = " bit".toList ++ ['s'] := by decide
    unfold sizeText
    rw [hbits, List.append_assoc]
  . have hb : 'b' ∈ " bits".toList := by decide
    exact List.mem_append_right _ hb

theorem not_mem_text {c : Char} (hdigit : c.isDigit = false) (hbits : c ∉ " bits".toList) (hcomma : c ≠ ',')
    (hmechanism : ∀ ephemeral, c ∉ (mechanismName ephemeral).toList) (layout : Layout) {name : List Char}
    (hname : c ∉ name) : c ∉ layout.text name := by
  have hsize := fun bits => not_mem_sizeText hdigit hbits bits
  have hspace : c ≠ ' ' := by
    rintro rfl
    exact hbits (by decide)
  cases layout with
  | plain | bare => exact hname
  | keySize bits => simp [Layout.text, hname, hcomma, hsize]
  | mechanism ephemeral bits => simp [Layout.text, hname, hcomma, hsize, hspace, hmechanism]

theorem Layout.text_mechanism (ephemeral : Bool) (bits : Nat) (name : List Char)
    : (Layout.mechanism ephemeral bits).text name
        =
      (mechanismName ephemeral).toList ++ ',' :: ((' ' :: name) ++ ',' :: sizeText bits) := by
  simp [Layout.text]

theorem infix_text_iff {needle : List Char} {c : Char} (hmem : c ∈ needle) (hdigit : c.isDigit = false)
    (hbits : c ∉ " bits".toList) (hmechanism : ∀ ephemeral, c ∉ (mechanismName ephemeral).toList)
    (hcomma : ',' ∉ needle) (hspace : needle.head? ≠ some ' ') (layout : Layout) (name : List Char)
    : needle <:+: layout.text name ↔ needle <:+: name := by
  have hne : needle ≠ [] := List.ne_nil_of_mem hmem
  have hnot : ∀ {s : List Char}, c ∉ s → ¬ needle <:+: s := fun hs hin => hs (hin.subset hmem)
  have hsize : ∀ bits, ¬ needle <:+: sizeText bits :=
    fun bits => hnot (not_mem_sizeText hdigit hbits bits)
  cases layout with
  | plain | bare => exact Iff.rfl
  | keySize bits =>
    unfold Layout.text
    rw [Search.infix_append_cons_iff hcomma hne, or_iff_left (hsize bits)]
  | mechanism ephemeral bits =>
    have hblank : ¬ needle <+: ' ' :: name := by
      intro hprefix
      obtain ⟨t, ht⟩ := hprefix
      cases needle with
      | nil => exact hne rfl
      | cons c needle =>
        cases ht
        exact hspace rfl
    rw [Layout.text_mechanism, Search.infix_append_cons_iff hcomma hne, or_iff_right (hnot (hmechanism _)),
      Search.infix_append_cons_iff hcomma hne, or_iff_left (hsize bits), List.infix_cons_iff,
      or_iff_right hblank]

theorem stripKeySize_eq (value : String)
    : ∃ piece ∈ value.toList.splitOn ',', stripKeySize value = Text.trim (String.ofList piece) := by
  unfold stripKeySize Text.split
  cases hs : value.toList.splitOn ',' with
  | nil => exact absurd hs (List.splitOn_ne_nil _ _)
  | cons first rest =>
    cases rest with
    | nil => exact ⟨first, by simp, by simp⟩
    | cons second rest =>
      simp only [List.map_cons]
      split
      . exact ⟨second, by simp, rfl⟩
      . exact ⟨first, by simp, rfl⟩

theorem infix_trim (s : List Char) : (Text.trim (String.ofList s)).toList <:+: s := by
  unfold Text.trim
  rw [String.toList_ofList, String.toList_ofList]
  apply Text.infix_trimList

theorem comma_not_mem_stripKeySize (value : String) : ',' ∉ (stripKeySize value).toList := by
  obtain ⟨piece, hpiece, heq⟩ := stripKeySize_eq value
  rw [heq]
  exact fun hmem => Search.not_mem_of_mem_splitOn hpiece ((infix_trim piece).subset hmem)

theorem LineKind.count_read_le (kind : LineKind) (c : Char) (value : String)
    : (kind.read value).toList.count c ≤ value.toList.count c := by
  cases kind with
  | plain => exact Nat.le_refl _
  | tempKey =>
    obtain ⟨piece, hpiece, heq⟩ := stripKeySize_eq value
    unfold LineKind.read
    rw [heq]
    apply Nat.le_trans
    . exact (infix_trim piece).sublist.count_le c
    . exact (Search.sublist_of_mem_splitOn hpiece).count_le c

theorem stripKeySize_of_not_mem {value : List Char} (h : ',' ∉ value)
    : stripKeySize (String.ofList value) = Text.trim (String.ofList value) := by
  unfold stripKeySize Text.split
  rw [String.toList_ofList, List.splitOn_eq_singleton h]
  rfl

theorem stripKeySize_append {first second : List Char} (hfirst : ',' ∉ first) (hsecond : ',' ∉ second)
    (more : List Char) (hmore : more = [] ∨ more.head? = some ',')
    : stripKeySize (String.ofList (first ++ ',' :: (second ++ more)))
        =
      if isMechanism (Text.trim (String.ofList first)) then
        Text.trim (String.ofList second)
      else
        Text.trim (String.ofList first) := by
  have hpieces : ∃ rest, (second ++ more).splitOn ',' = second :: rest := by
    cases more with
    | nil => exact ⟨[], by rw [List.append_nil, List.splitOn_eq_singleton hsecond]⟩
    | cons c more =>
      have hc : c = ',' := by simpa using hmore
      exact ⟨more.splitOn ',', by rw [hc, List.splitOn_append_cons_self_of_not_mem hsecond]⟩
  obtain ⟨rest, hrest⟩ := hpieces
  unfold stripKeySize Text.split isMechanism
  rw [String.toList_ofList, List.splitOn_append_cons_self_of_not_mem hfirst, hrest]
  rfl

theorem shown_of_last {s : List Char} {c : Char} (hc : Text.isWhitespace c = false)
    : shown (s ++ [c]) = some (String.ofList (s.dropWhile Text.isWhitespace ++ [c])) := by
  have htrim : Text.trim (String.ofList (s ++ [c])) = String.ofList (s.dropWhile Text.isWhitespace ++ [c]) := by
    unfold Text.trim
    rw [String.toList_ofList, Text.trimList_append_singleton _ hc]
  unfold shown
  rw [htrim]
  apply if_pos
  intro hempty
  have := congrArg String.toList hempty
  simp at this

theorem dropWhile_comma (s t : List Char)
    : (s ++ ',' :: t).dropWhile Text.isWhitespace = s.dropWhile Text.isWhitespace ++ ',' :: t := by
  have hcomma : Text.isWhitespace ',' = false := by decide
  rw [List.dropWhile_append]
  split
  . next h => simp [List.isEmpty_iff.mp h, hcomma]
  . rfl

theorem trim_space (s : List Char) : Text.trim (String.ofList (' ' :: s)) = Text.trim (String.ofList s) := by
  have hspace : Text.isWhitespace ' ' = true := by decide
  unfold Text.trim
  rw [String.toList_ofList, String.toList_ofList, ← Text.trimList_dropWhile,
    List.dropWhile_cons_of_pos hspace, Text.trimList_dropWhile]

def Layout.readBack (layout : Layout) (name : String) : Option String :=
  (shown (layout.text name.toList)).map layout.kind.read

theorem shown_toList (name : String)
    : shown name.toList = if Text.trim name ≠ "" then some (Text.trim name) else none := by
  unfold shown
  rw [String.ofList_toList]

theorem readBack_plain {name group : String}
    : Layout.plain.readBack name = some group ↔ Text.trim name ≠ "" ∧ group = Text.trim name := by
  unfold Layout.readBack Layout.text
  dsimp only
  rw [shown_toList]
  split
  . next h => simp [h, Layout.kind, LineKind.read, eq_comm]
  . next h => simp [h]

theorem readBack_bare {name : String} (h : ',' ∉ name.toList) {group : String}
    : Layout.bare.readBack name = some group ↔ Text.trim name ≠ "" ∧ group = Text.trim name := by
  have hread : stripKeySize (Text.trim name) = Text.trim name := by
    have hcomma : ',' ∉ (Text.trim name).toList := by
      intro hmem
      rw [← String.ofList_toList (s := name)] at hmem
      exact h ((infix_trim name.toList).subset hmem)
    have := stripKeySize_of_not_mem hcomma
    rwa [String.ofList_toList, Text.trim_trim] at this
  unfold Layout.readBack Layout.text
  dsimp only
  rw [shown_toList]
  split
  . next hne => simp [hne, Layout.kind, LineKind.read, hread, eq_comm]
  . next hne => simp [hne]

theorem readBack_keySize {name : String} (h : ',' ∉ name.toList) (bits : Nat)
    : (Layout.keySize bits).readBack name
        =
      some (if isMechanism (Text.trim name) then
        Text.trim (String.ofList (sizeText bits))
      else
        Text.trim name) := by
  obtain ⟨s, hs, -⟩ := sizeText_eq bits
  have hshown : shown (name.toList ++ ',' :: sizeText bits)
      = some (String.ofList (name.toList.dropWhile Text.isWhitespace ++ ',' :: (sizeText bits ++ []))) := by
    have hlast : name.toList ++ ',' :: sizeText bits = (name.toList ++ ',' :: s) ++ ['s'] := by simp [hs]
    rw [hlast, shown_of_last (by decide), dropWhile_comma]
    simp [hs]
  have hfirst : ',' ∉ name.toList.dropWhile Text.isWhitespace :=
    fun hmem => h ((List.dropWhile_suffix _).subset hmem)
  have htrim : Text.trim (String.ofList (name.toList.dropWhile Text.isWhitespace)) = Text.trim name := by
    unfold Text.trim
    rw [String.toList_ofList, Text.trimList_dropWhile]
  have hsize : ',' ∉ sizeText bits := not_mem_sizeText (by decide) (by decide) bits
  unfold Layout.readBack Layout.text
  dsimp only
  rw [hshown, Option.map_some]
  unfold Layout.kind LineKind.read
  dsimp only
  rw [stripKeySize_append hfirst hsize [] (.inl rfl), htrim]

theorem readBack_mechanism {name : String} (h : ',' ∉ name.toList) (ephemeral : Bool) (bits : Nat)
    : (Layout.mechanism ephemeral bits).readBack name = some (Text.trim name) := by
  obtain ⟨s, hs, -⟩ := sizeText_eq bits
  have hshown : shown ((Layout.mechanism ephemeral bits).text name.toList)
      = some (String.ofList ((mechanismName ephemeral).toList
          ++ ',' :: ((' ' :: name.toList) ++ ',' :: sizeText bits))) := by
    have hlast : (Layout.mechanism ephemeral bits).text name.toList
        = ((mechanismName ephemeral).toList ++ ',' :: ((' ' :: name.toList) ++ ',' :: s)) ++ ['s'] := by
      simp [Layout.text_mechanism, hs]
    have hvisible : (mechanismName ephemeral).toList.dropWhile Text.isWhitespace
        = (mechanismName ephemeral).toList := by
      cases ephemeral <;> decide
    rw [hlast, shown_of_last (by decide), dropWhile_comma, hvisible]
    simp [hs]
  have hfirst : ',' ∉ (mechanismName ephemeral).toList := by cases ephemeral <;> decide
  have hsecond : ',' ∉ ' ' :: name.toList := by simp [h]
  have hmechanism : isMechanism (Text.trim (String.ofList (mechanismName ephemeral).toList)) = true := by
    cases ephemeral <;> decide
  unfold Layout.readBack
  rw [hshown, Option.map_some]
  unfold Layout.kind LineKind.read
  dsimp only
  rw [stripKeySize_append hfirst hsecond _ (.inr rfl), if_pos hmechanism, trim_space, String.ofList_toList]

end Reading

section Layouts

variable {layout : Layout} {name group : String}

theorem readBack_of_fits (hfits : layout.Fits name) (htrim : Text.trim name = name)
    : layout.readBack name = some name := by
  cases layout with
  | plain =>
    rw [readBack_plain, htrim]
    exact ⟨hfits, rfl⟩
  | bare =>
    rw [readBack_bare hfits.2, htrim]
    exact ⟨hfits.1, rfl⟩
  | keySize bits =>
    rw [readBack_keySize hfits.1, htrim, hfits.2]
    rfl
  | mechanism ephemeral bits => rw [readBack_mechanism hfits, htrim]

theorem exists_of_readBack (h : layout.readBack name = some group)
    : ∃ value, shown (layout.text name.toList) = some value ∧ group = layout.kind.read value := by
  unfold Layout.readBack at h
  rw [Option.map_eq_some_iff] at h
  obtain ⟨value, hvalue, hgroup⟩ := h
  exact ⟨value, hvalue, hgroup.symm⟩

theorem comma_not_mem_of_readBack (h : layout.readBack name = some group) (hkind : layout.kind = .tempKey)
    : ',' ∉ group.toList := by
  obtain ⟨value, -, rfl⟩ := exists_of_readBack h
  rw [hkind]
  apply comma_not_mem_stripKeySize

theorem isMechanism_sizeText (bits : Nat)
    (h : Text.eqIgnoreAsciiCase (Text.trim (String.ofList (sizeText bits))) name = true)
    : isMechanism name = false := by
  have hb : 'b' ∈ (Text.toAsciiLowercase (Text.trim (String.ofList (sizeText bits)))).toList := by
    obtain ⟨-, -, hmem⟩ := sizeText_eq bits
    have htrim : 'b' ∈ (Text.trim (String.ofList (sizeText bits))).toList := by
      unfold Text.trim
      rw [String.toList_ofList, String.toList_ofList]
      exact Text.mem_trimList hmem (by decide)
    unfold Text.toAsciiLowercase
    rw [String.toList_ofList, List.mem_map]
    exact ⟨'b', htrim, by decide⟩
  rw [Text.eqIgnoreAsciiCase_iff.mp h] at hb
  unfold isMechanism
  rw [Bool.or_eq_false_iff]
  constructor
  all_goals
    rw [← Bool.not_eq_true, Text.eqIgnoreAsciiCase_iff]
    intro heq
    rw [heq] at hb
    revert hb
    decide

theorem fits_of_readBack (h : layout.readBack name = some group)
    (heq : Text.eqIgnoreAsciiCase group name = true) : Text.trim name = name ∧ layout.Fits name := by
  have hcomma : layout.kind = .tempKey → ',' ∉ name.toList := by
    intro hkind hmem
    apply comma_not_mem_of_readBack h hkind
    exact (Text.mem_iff_of_eqIgnoreAsciiCase heq (by decide)).mpr hmem
  cases layout with
  | plain =>
    obtain ⟨hne, rfl⟩ := readBack_plain.mp h
    have htrim := Text.trim_eq_self_of_eqIgnoreAsciiCase heq
    rw [htrim] at hne
    exact ⟨htrim, hne⟩
  | bare =>
    obtain ⟨hne, rfl⟩ := (readBack_bare (hcomma rfl)).mp h
    have htrim := Text.trim_eq_self_of_eqIgnoreAsciiCase heq
    rw [htrim] at hne
    exact ⟨htrim, hne, hcomma rfl⟩
  | keySize bits =>
    rw [readBack_keySize (hcomma rfl), Option.some.injEq] at h
    have htrim : Text.trim name = name := by
      apply Text.trim_eq_self_of_eq heq
      rw [← h]
      split
      . apply Text.trim_trim
      . apply Text.trim_trim
    rw [htrim] at h
    refine ⟨htrim, hcomma rfl, ?_⟩
    split at h
    . subst h
      exact isMechanism_sizeText bits heq
    . next hm => simpa using hm
  | mechanism ephemeral bits =>
    rw [readBack_mechanism (hcomma rfl), Option.some.injEq] at h
    subst h
    exact ⟨Text.trim_eq_self_of_eqIgnoreAsciiCase heq, hcomma rfl⟩

theorem exists_last_text (htrim : Text.trim name = name) (hne : layout.text name.toList ≠ [])
    : ∃ s c, layout.text name.toList = s ++ [c] ∧ Text.isWhitespace c = false := by
  cases layout with
  | plain | bare =>
    apply Text.exists_last_of_trim_eq_self htrim
    rintro rfl
    exact hne rfl
  | keySize bits =>
    obtain ⟨s, hs, -⟩ := sizeText_eq bits
    exact ⟨name.toList ++ ',' :: s, 's', by simp [Layout.text, hs], by decide⟩
  | mechanism ephemeral bits =>
    obtain ⟨s, hs, -⟩ := sizeText_eq bits
    exact ⟨_ ++ ',' :: ((' ' :: name.toList) ++ ',' :: s), 's', by simp [Layout.text_mechanism, hs]; rfl, by decide⟩

end Layouts

section Needles

structure Searchable (needle : List Char) : Prop where
  oneLine : '\n' ∉ needle
  noReturn : '\r' ∉ needle
  noComma : ',' ∉ needle
  opens : needle.head?.map Text.isWhitespace = some false
  closes : needle.getLast? = some ' '
  apart : Search.Apart needle needle

instance (needle : List Char) : Decidable (Searchable needle) :=
  decidable_of_iff ('\n' ∉ needle ∧ '\r' ∉ needle ∧ ',' ∉ needle
      ∧ needle.head?.map Text.isWhitespace = some false ∧ needle.getLast? = some ' '
      ∧ Search.Apart needle needle)
    ⟨fun ⟨h₁, h₂, h₃, h₄, h₅, h₆⟩ => ⟨h₁, h₂, h₃, h₄, h₅, h₆⟩,
      fun ⟨h₁, h₂, h₃, h₄, h₅, h₆⟩ => ⟨h₁, h₂, h₃, h₄, h₅, h₆⟩⟩

theorem searchable (backend : Backend) : ∀ p ∈ groupNeedles backend, Searchable p.1.toList := by
  cases backend <;> decide

theorem clear_groupNeedles (backend : Backend)
    : (groupNeedles backend).Pairwise (fun p q => Search.Clear p.1.toList q.1.toList) := by
  cases backend <;> decide

theorem colon_mem_of_earlier {backend : Backend} {earlier later : List (String × LineKind)}
    {q : String × LineKind} (hneedles : groupNeedles backend = earlier ++ q :: later)
    : ∀ p ∈ earlier, ':' ∈ p.1.toList := by
  have hall : ∀ p ∈ (groupNeedles backend).dropLast, ':' ∈ p.1.toList := by cases backend <;> decide
  intro p hp
  apply hall
  rw [hneedles, List.dropLast_append_cons]
  exact List.mem_append_left _ hp

end Needles

theorem Searchable.ne_empty {needle : String} (h : Searchable needle.toList) : needle ≠ "" := by
  rintro rfl
  cases h.closes

section Printed

variable {p pre post needle : String} {text : List Char}

theorem valueAfter_printed (hp : Searchable p.toList) (hpre : ¬ p.toList <:+: pre.toList)
    (hpost : ¬ p.toList <:+: post.toList) (hends : EndsLine post) (hline : '\n' ∉ needle.toList ++ text)
    : ∃ lead : List Char, ¬ p.toList <:+: lead
        ∧ valueAfter (pre ++ needle ++ String.ofList text ++ post) p
            = valueOn p (String.ofList (lead ++ (needle.toList ++ text))) := by
  obtain ⟨front, lead, rfl, hlead, hfront⟩ := Text.exists_unterminated pre
  rw [String.toList_append] at hpre
  have hnofront : ¬ p.toList <:+: front.toList :=
    fun hin => hpre (hin.trans (List.prefix_append _ _).isInfix)
  have hnolead : ¬ p.toList <:+: lead.toList :=
    fun hin => hpre (hin.trans (List.suffix_append _ _).isInfix)
  have hwhole : '\n' ∉ lead.toList ++ (needle.toList ++ text) := by
    rw [List.mem_append, not_or]
    exact ⟨hlead, hline⟩
  refine ⟨lead.toList, hnolead, ?_⟩
  rw [← valueAfter_between hp.ne_empty hp.noReturn hfront hnofront hwhole hends hpost]
  simp only [String.ofList_append, String.ofList_toList, String.append_assoc]

theorem valueAfter_own (hneedle : Searchable needle.toList) (hpre : ¬ needle.toList <:+: pre.toList)
    (hpost : ¬ needle.toList <:+: post.toList) (hends : EndsLine post) (hline : '\n' ∉ needle.toList ++ text)
    : valueAfter (pre ++ needle ++ String.ofList text ++ post) needle = shown text := by
  obtain ⟨lead, hlead, hvalue⟩ := valueAfter_printed hneedle hpre hpost hends hline
  rw [hvalue, valueOn_of_some (hneedle.apart.after_eq hlead text)]

theorem valueAfter_other (hp : Searchable p.toList) (hclear : Search.Clear p.toList needle.toList)
    (hpre : ¬ p.toList <:+: pre.toList) (hpost : ¬ p.toList <:+: post.toList) (hends : EndsLine post)
    (hline : '\n' ∉ needle.toList ++ text)
    : valueAfter (pre ++ needle ++ String.ofList text ++ post) p = valueOn p (String.ofList text) := by
  obtain ⟨lead, hlead, hvalue⟩ := valueAfter_printed hp hpre hpost hends hline
  rw [hvalue]
  unfold valueOn Text.after
  rw [String.toList_ofList, String.toList_ofList, hclear.after_eq hlead]

end Printed

section Groups

variable {backend : Backend} {earlier later : List (String × LineKind)} {needle : String} {layout : Layout}

def readOff (line : List Char) (p : String × LineKind) : Option String :=
  (valueOn p.1 (String.ofList line)).map p.2.read

theorem groupOf_line {pre post name : String}
    (hneedles : groupNeedles backend = earlier ++ (needle, layout.kind) :: later)
    (hpre : ∀ p ∈ groupNeedles backend, ¬ p.1.toList <:+: pre.toList)
    (hpost : ∀ p ∈ groupNeedles backend, ¬ p.1.toList <:+: post.toList) (hends : EndsLine post)
    (hname : '\n' ∉ name.toList)
    : groupOf backend (pre ++ needle ++ String.ofList (layout.text name.toList) ++ post)
        =
      (((earlier.findSome? (readOff (layout.text name.toList))).or (layout.readBack name)).or
        (later.findSome? (readOff (layout.text name.toList)))).filter (fun g => g ∉ placeholders backend) := by
  have hmem : (needle, layout.kind) ∈ groupNeedles backend := by
    rw [hneedles]
    exact List.mem_append_right _ List.mem_cons_self
  have hneedle := searchable backend _ hmem
  have hline : '\n' ∉ needle.toList ++ layout.text name.toList := by
    rw [List.mem_append, not_or]
    refine ⟨hneedle.oneLine, ?_⟩
    apply not_mem_text (by decide) (by decide) (by decide) _ _ hname
    intro ephemeral
    cases ephemeral <;> decide
  have hpairs := clear_groupNeedles backend
  rw [hneedles, List.pairwise_append, List.pairwise_cons] at hpairs
  have hearlier : ∀ p ∈ earlier, p ∈ groupNeedles backend ∧ Search.Clear p.1.toList needle.toList :=
    fun p hp => ⟨by simp [hneedles, hp], hpairs.2.2 p hp _ List.mem_cons_self⟩
  have hlater : ∀ p ∈ later, p ∈ groupNeedles backend ∧ Search.Clear p.1.toList needle.toList :=
    fun p hp => ⟨by simp [hneedles, hp], (hpairs.2.1.1 p hp).symm⟩
  have hother : ∀ rows : List (String × LineKind),
      (∀ p ∈ rows, p ∈ groupNeedles backend ∧ Search.Clear p.1.toList needle.toList) →
      rows.findSome? (fun (p, kind) => (valueAfter
          (pre ++ needle ++ String.ofList (layout.text name.toList) ++ post) p).map kind.read)
        = rows.findSome? (readOff (layout.text name.toList)) := by
    intro rows hrows
    induction rows with
    | nil => rfl
    | cons q rows ih =>
      obtain ⟨p, kind⟩ := q
      obtain ⟨hp, hclear⟩ := hrows _ List.mem_cons_self
      have hvalue := valueAfter_other (searchable backend _ hp) hclear (hpre _ hp) (hpost _ hp) hends hline
      rw [List.findSome?_cons, List.findSome?_cons, ih (fun q hq => hrows q (List.mem_cons_of_mem _ hq))]
      dsimp only at hvalue ⊢
      rw [hvalue]
      rfl
  have hown := valueAfter_own hneedle (hpre _ hmem) (hpost _ hmem) hends hline
  unfold groupOf
  rw [hneedles, List.findSome?_append, List.findSome?_cons, hother earlier hearlier, hother later hlater]
  dsimp only
  rw [hown]
  unfold Layout.readBack
  cases earlier.findSome? (readOff (layout.text name.toList)) <;> cases shown (layout.text name.toList) <;> rfl

theorem valueOn_eq_some {line value : String} (h : valueOn needle line = some value)
    : ∃ pre rest : List Char, line.toList = pre ++ needle.toList ++ rest
        ∧ value = Text.trim (String.ofList rest) ∧ value ≠ "" := by
  unfold valueOn at h
  split at h
  . cases h
  . next rest hafter =>
    unfold Text.after at hafter
    rw [Option.map_eq_some_iff] at hafter
    obtain ⟨chars, hchars, rfl⟩ := hafter
    obtain ⟨pre, hpre⟩ := Search.eq_append_of_after hchars
    dsimp only at h
    split at h
    . next hne =>
      cases h
      exact ⟨pre, chars, hpre, rfl, hne⟩
    . cases h

theorem newline_not_mem_of_groupOf {text group : String} (h : groupOf backend text = some group)
    : '\n' ∉ group.toList := by
  unfold groupOf at h
  obtain ⟨p, -, hp⟩ := List.exists_of_findSome?_eq_some (Option.filter_eq_some_iff.mp h).1
  obtain ⟨value, hvalue, rfl⟩ := Option.map_eq_some_iff.mp hp
  obtain ⟨line, hline, hon⟩ := List.exists_of_findSome?_eq_some hvalue
  obtain ⟨pre, rest, hsplit, rfl, -⟩ := valueOn_eq_some hon
  have hrest : '\n' ∉ rest := by
    intro hmem
    apply Text.newline_not_mem_of_mem_lines hline
    rw [hsplit]
    exact List.mem_append_right _ hmem
  rw [← List.count_eq_zero, ← Nat.le_zero]
  apply Nat.le_trans (p.2.count_read_le '\n' _)
  rw [Nat.le_zero, List.count_eq_zero]
  exact fun hmem => hrest ((infix_trim rest).subset hmem)

end Groups

end cli

end PqCas
