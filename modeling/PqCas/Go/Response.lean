import PqCas.Cli.Parse
import PqCas.Go.Strings
import PqCas.Lib.Excerpt

/-!
What the two adapters make of one response of a web server: `parse_http` of the CLI adapter and `doHTTP` of the
Go adapter.
-/

namespace PqCas

def InLine (s : String) : Prop :=
  '\r' ∉ s.toList ∧ '\n' ∉ s.toList

structure HttpResponse where
  minor : Char
  code : List Char
  reason : Option String
  headers : List String
  body : String
  isDigit_minor : minor.isDigit = true
  length_code : code.length = 3
  isDigit_code : ∀ c ∈ code, c.isDigit = true
  inLine_reason : ∀ phrase ∈ reason, InLine phrase
  inLine_headers : ∀ header ∈ headers, InLine header
  colon_headers : ∀ header ∈ headers, ':' ∈ header.toList

theorem InLine.isLine {s : String} (h : InLine s) : Text.IsLine s :=
  ⟨h.2, fun hlast => h.1 (List.mem_of_getLast? hlast)⟩

theorem InLine.append {a b : String} (ha : InLine a) (hb : InLine b) : InLine (a ++ b) := by
  unfold InLine
  rw [String.toList_append, List.mem_append, List.mem_append, not_or, not_or]
  exact ⟨⟨ha.1, hb.1⟩, ⟨ha.2, hb.2⟩⟩

theorem inLine_ofList {cs : List Char} (h : ∀ c ∈ cs, c = ' ' ∨ c.isDigit = true) : InLine (String.ofList cs) := by
  unfold InLine
  rw [String.toList_ofList]
  constructor
  . intro hmem
    rcases h _ hmem with hc | hc <;> cases hc
  . intro hmem
    rcases h _ hmem with hc | hc <;> cases hc

namespace HttpResponse

variable (r : HttpResponse)

def phrase : String :=
  match r.reason with
  | none => ""
  | some reason => " " ++ reason

def statusLine : String :=
  "HTTP/1." ++ String.ofList (r.minor :: ' ' :: r.code) ++ r.phrase

def head : String :=
  Text.unlines true (r.statusLine :: r.headers ++ [""])

def text : String :=
  r.head ++ r.body

theorem inLine_phrase : InLine r.phrase := by
  unfold phrase
  cases hreason : r.reason with
  | none => exact ⟨List.not_mem_nil, List.not_mem_nil⟩
  | some reason =>
    have hspace : InLine " " := ⟨by decide, by decide⟩
    exact hspace.append (r.inLine_reason reason hreason)

theorem inLine_statusLine : InLine r.statusLine := by
  have hversion : InLine "HTTP/1." := ⟨by decide, by decide⟩
  have hdigits : ∀ c ∈ r.minor :: ' ' :: r.code, c = ' ' ∨ c.isDigit = true := by
    intro c hc
    rcases List.mem_cons.mp hc with rfl | hc
    . exact .inr r.isDigit_minor
    . rcases List.mem_cons.mp hc with rfl | hc
      . exact .inl rfl
      . exact .inr (r.isDigit_code c hc)
  exact (hversion.append (inLine_ofList hdigits)).append r.inLine_phrase

theorem statusLine_ne_empty : r.statusLine ≠ "" := by
  intro hempty
  have hlength := congrArg String.length hempty
  unfold statusLine at hlength
  simp at hlength

theorem splitWhitespace_statusLine : (Text.splitWhitespace r.statusLine)[1]? = some (String.ofList r.code) := by
  have hword : ∀ c ∈ "HTTP/1.".toList ++ [r.minor], Text.isWhitespace c = false := by
    intro c hc
    rcases List.mem_append.mp hc with hc | hc
    . have hall : ("HTTP/1.".toList.all fun c => !Text.isWhitespace c) = true := by decide
      simpa using List.all_eq_true.mp hall c hc
    . rw [List.mem_singleton.mp hc]
      exact Text.isWhitespace_of_isDigit r.isDigit_minor
  have hcode : ∀ c ∈ r.code, Text.isWhitespace c = false := fun c hc =>
    Text.isWhitespace_of_isDigit (r.isDigit_code c hc)
  have hne : r.code ≠ [] := by
    intro hnil
    have := r.length_code
    rw [hnil] at this
    cases this
  have hline : r.statusLine
      = String.ofList ("HTTP/1.".toList ++ [r.minor] ++ ' ' :: (r.code ++ r.phrase.toList)) := by
    apply String.toList_injective
    unfold statusLine
    simp
  rw [hline, Text.splitWhitespace_cons (by simp) hword, List.getElem?_cons_succ]
  unfold phrase
  cases r.reason with
  | none =>
    dsimp only
    rw [String.toList_empty, List.append_nil, Text.splitWhitespace_word hne hcode]
    rfl
  | some reason =>
    have hspace : (" " ++ reason).toList = ' ' :: reason.toList := by simp
    dsimp only
    rw [hspace, Text.splitWhitespace_cons hne hcode]
    rfl

section Rust

def fieldOf (line : String) : Option MessageField :=
  (Text.splitOnce ":" line).map (fun (name, value) => ⟨Text.trim name, [Text.trim value]⟩)

theorem parseHeaders_append {headers : List String} (h : ∀ header ∈ headers, ':' ∈ header.toList) (lines : List String)
    : cli.parseHeaders (headers ++ "" :: lines) = (headers.filterMap fieldOf, lines) := by
  induction headers with
  | nil => rfl
  | cons header headers ih =>
    have hcolon : ':' ∈ (Text.trim header).toList := by
      unfold Text.trim
      rw [String.toList_ofList]
      exact Text.mem_trimList (h header List.mem_cons_self) (by decide)
    have hvisible : Text.trim header ≠ "" := by
      intro hempty
      rw [hempty] at hcolon
      cases hcolon
    rw [List.cons_append, cli.parseHeaders, if_neg hvisible, ih (fun l hl => h l (List.mem_cons_of_mem header hl))]
    unfold fieldOf
    cases hsplit : Text.splitOnce ":" header <;> simp [hsplit]

def excerptOf (body : String) : Option String :=
  let joined := Text.join "\n" (Text.lines body)
  if Text.trim joined ≠ "" then some (Text.takeChars 512 joined) else none

theorem lines_text : Text.lines r.text = r.statusLine :: (r.headers ++ "" :: Text.lines r.body) := by
  have hlines : ∀ line ∈ r.statusLine :: r.headers ++ [""], Text.IsLine line := by
    intro line hline
    rw [List.mem_append, List.mem_cons, List.mem_singleton] at hline
    rcases hline with (rfl | hline) | rfl
    . exact r.inLine_statusLine.isLine
    . exact (r.inLine_headers line hline).isLine
    . decide
  unfold text head
  rw [Text.lines_unlines hlines]
  simp

theorem after_text : ∃ rest, Text.after "HTTP/1." r.text = some rest ∧ "HTTP/1." ++ rest = r.text := by
  have hrest : ∃ rest : String, "HTTP/1." ++ rest = r.text := by
    unfold text head statusLine
    rw [List.cons_append, Text.unlines, String.append_assoc, String.append_assoc, String.append_assoc,
      String.append_assoc]
    exact ⟨_, rfl⟩
  obtain ⟨rest, hrest⟩ := hrest
  refine ⟨rest, ?_, hrest⟩
  unfold Text.after
  rw [← hrest, String.toList_append, Search.after_self, Option.map_some, String.ofList_toList]

theorem parseHttp_text
    : cli.parseHttp r.text
        =
      some {
        status := UInt16.ofNat (go.decimal r.code)
        headers := r.headers.filterMap fieldOf
        bodyExcerpt := excerptOf r.body
      } := by
  obtain ⟨rest, hafter, hrest⟩ := r.after_text
  have hne : r.code ≠ [] := by
    intro hnil
    have := r.length_code
    rw [hnil] at this
    cases this
  have hbound : 10 ^ r.code.length ≤ 2 ^ 16 := by
    rw [r.length_code]
    decide
  unfold cli.parseHttp
  rw [hafter, Option.bind_eq_bind, Option.bind_some, hrest, r.lines_text]
  dsimp only
  rw [Option.bind_eq_bind, Option.bind_some, r.splitWhitespace_statusLine, Option.bind_some,
    go.parseUnsigned_decimal hne r.isDigit_code hbound, Option.bind_eq_bind, Option.bind_some,
    parseHeaders_append r.colon_headers]
  rfl

end Rust

section Go

open PqCas.go

theorem text_unlines (lines : List String)
    : go.text (Text.unlines true lines) = (lines.map go.text).flatMap (· ++ crlf) := by
  induction lines with
  | nil => rfl
  | cons line lines ih =>
    have hend : go.text (Text.lineEnd true) = crlf := text_crlf
    rw [Text.unlines, text_append, text_append, ih, hend, List.map_cons, List.flatMap_cons]

theorem not_mem_text {line : String} (h : InLine line) : 0x0D ∉ go.text line :=
  Utf8.not_mem_encodeChars (by decide : String.utf8EncodeChar '\r' = [0x0D]) h.1

theorem text_ne_nil {line : String} (h : line ≠ "") : go.text line ≠ [] := by
  intro hnil
  exact h (Utf8.encode_injective hnil)

theorem headerOf_text {header : String} (h : ':' ∈ header.toList)
    : headerOf (go.text header) = (fieldOf header).map mirrorField := by
  obtain ⟨front, rest, hsplit, hcut⟩ := cut_text (by decide : ":".toList = [':']) (by decide : String.utf8EncodeChar ':' = [0x3A]) h
  unfold headerOf fieldOf
  rw [hsplit, hcut, Option.map_some, Option.map_some, Option.map_some]
  dsimp only
  rw [trimSpace_text, trimSpace_text]
  rfl

theorem filterMap_headerOf
    : (r.headers.map go.text).filterMap headerOf = (r.headers.filterMap fieldOf).map mirrorField := by
  rw [List.filterMap_map, List.map_filterMap]
  apply List.filterMap_congr
  exact fun header hheader => headerOf_text (r.colon_headers header hheader)

theorem statusOf_text : statusOf (go.text r.statusLine) = decimal r.code := by
  unfold statusOf
  rw [fields_text, List.getElem?_map, r.splitWhitespace_statusLine, Option.map_some]
  dsimp only
  apply scanDecimal_text r.isDigit_code
  rw [r.length_code]
  decide

theorem hasPrefix_statusLine : hasPrefix "HTTP/" (go.text r.statusLine) = true := by
  have hline : r.statusLine = "HTTP/" ++ ("1." ++ String.ofList (r.minor :: ' ' :: r.code) ++ r.phrase) := by
    have hversion : "HTTP/1." = "HTTP/" ++ "1." := by decide
    unfold statusLine
    rw [hversion, String.append_assoc, String.append_assoc, String.append_assoc]
  rw [hline]
  apply hasPrefix_text

theorem doHTTP_text (behind : GoString)
    : doHTTP (.answer (go.text r.head ++ behind))
        =
      .ok {
        status := decimal r.code
        headers := some ((r.headers.filterMap fieldOf).map mirrorField)
        bodyExcerpt := go.excerptOf behind
      } := by
  have hlines : ∀ line ∈ go.text r.statusLine :: r.headers.map go.text, 0x0D ∉ line ∧ line ≠ [] := by
    intro line hline
    rcases List.mem_cons.mp hline with rfl | hline
    . exact ⟨not_mem_text r.inLine_statusLine, text_ne_nil r.statusLine_ne_empty⟩
    . obtain ⟨header, hheader, rfl⟩ := List.mem_map.mp hline
      refine ⟨not_mem_text (r.inLine_headers header hheader), text_ne_nil ?_⟩
      rintro rfl
      cases r.colon_headers "" hheader
  have hhead : go.text r.head ++ behind
      = go.text r.statusLine ++ (crlf ++ ((r.headers.map go.text).flatMap (· ++ crlf) ++ (crlf ++ behind))) := by
    have hempty : go.text "" = [] := rfl
    unfold head
    rw [text_unlines, List.map_append, List.map_cons, List.map_singleton, hempty]
    simp
  unfold doHTTP
  dsimp only
  rw [hhead, headAndBody_lines hlines]
  dsimp only
  rw [if_pos r.hasPrefix_statusLine, r.statusOf_text, r.filterMap_headerOf]

end Go

section Excerpts

open PqCas.go

variable (body : String)

theorem toList_takeChars_join
    : (Text.takeChars 512 (Text.join "\n" (Text.lines body))).toList = (Excerpt.rejoin body.toList).take 512 := by
  unfold Text.takeChars
  rw [String.toList_ofList, Excerpt.toList_join_lines]

theorem trim_eq_empty_iff {s : String} : Text.trim s = "" ↔ Text.trimList Text.isWhitespace s.toList = [] := by
  unfold Text.trim
  rw [← String.toList_inj, String.toList_ofList, String.toList_empty]

theorem trim_join_lines : Text.trim (Text.join "\n" (Text.lines body)) = "" ↔ Text.trim body = "" := by
  rw [trim_eq_empty_iff, trim_eq_empty_iff, Excerpt.toList_join_lines, Excerpt.trimList_rejoin_eq_nil_iff]

theorem excerptOf_eq : excerptOf body =
    if Text.trim body = "" then none else some (Text.takeChars 512 (Text.join "\n" (Text.lines body))) := by
  unfold excerptOf
  by_cases hblank : Text.trim body = ""
  . have hjoin := (trim_join_lines body).mpr hblank
    simp [hblank, hjoin]
  . have hjoin := mt (trim_join_lines body).mp hblank
    simp [hblank, hjoin]

theorem excerptOf_text : go.excerptOf (go.text body) =
    if Text.trim body = "" then none else some ((go.text (Text.trim body)).take 512) := by
  unfold go.excerptOf
  rw [trimSpace_text]
  by_cases hblank : Text.trim body = ""
  . have hempty : go.text "" = [] := rfl
    simp [hblank, hempty]
  . have hvisible := text_ne_nil hblank
    simp [hblank, hvisible]

theorem isSome_excerptOf : (go.excerptOf (go.text body)).isSome = (excerptOf body).isSome := by
  rw [excerptOf_text, excerptOf_eq]
  split
  . rfl
  . rw [Option.isSome_some, Option.isSome_some]

theorem excerptOf_iff
    : go.excerptOf (go.text body) = (excerptOf body).map go.text
        ↔
      Text.trim body = "" ∨ Excerpt.Plain 512 body.toList := by
  rw [excerptOf_text, excerptOf_eq]
  by_cases hblank : Text.trim body = ""
  . simp [hblank]
  . have hvisible := mt trim_eq_empty_iff.mpr hblank
    have hplain := Excerpt.encode_take_iff (n := 512) (by omega) hvisible
    have htrim : (Text.trim body).toList = Text.trimList Text.isWhitespace body.toList := String.toList_ofList
    rw [if_neg hblank, if_neg hblank, Option.map_some, Option.some.injEq, or_iff_right hblank, ← hplain]
    unfold go.text Utf8.encode
    rw [toList_takeChars_join, htrim]
    exact eq_comm

end Excerpts

section Limit

open PqCas.go

/--
The bytes that are read of an answer (`io.LimitReader`).
-/
def readLimit : Nat := 64 * 1024

def received (bytes : GoString) : GoString :=
  bytes.take readLimit

theorem received_text (h : (go.text r.head).length ≤ readLimit)
    : received (go.text r.text)
        =
      go.text r.head ++ (go.text r.body).take (readLimit - (go.text r.head).length) := by
  unfold received text
  rw [text_append, List.take_append, List.take_of_length_le h]

theorem doHTTP_received (h : (go.text r.head).length ≤ readLimit)
    : go.doHTTP (.answer (received (go.text r.text)))
        =
      .ok {
        status := decimal r.code
        headers := some ((r.headers.filterMap fieldOf).map mirrorField)
        bodyExcerpt := go.excerptOf ((go.text r.body).take (readLimit - (go.text r.head).length))
      } := by
  rw [r.received_text h, r.doHTTP_text]

theorem toNat_status : (UInt16.ofNat (decimal r.code)).toNat = decimal r.code := by
  have hlt := decimal_lt r.isDigit_code
  rw [r.length_code] at hlt
  rw [UInt16.toNat_ofNat', Nat.mod_eq_of_lt (by omega)]

/--
The adapters agree on the status and the headers of a response whose head is read in whole. Of a response that is
read in whole both show an excerpt of the body or neither does, and they agree on it exactly if there is none to
show or the body is plain.
-/
theorem read_alike (hhead : (go.text r.head).length ≤ readLimit)
    : ∃ http goHttp,
        cli.parseHttp r.text = some http
          ∧ go.doHTTP (.answer (received (go.text r.text))) = .ok goHttp
          ∧ goHttp.status = http.status.toNat
          ∧ goHttp.headers = some (http.headers.map mirrorField)
          ∧ ((go.text r.text).length ≤ readLimit →
              goHttp.bodyExcerpt.isSome = http.bodyExcerpt.isSome
                ∧ (goHttp = mirrorHttp http ↔ Text.trim r.body = "" ∨ Excerpt.Plain 512 r.body.toList)) := by
  have hstatus := r.toNat_status
  refine ⟨_, _, r.parseHttp_text, r.doHTTP_received hhead, ?_, rfl, ?_⟩
  . dsimp only
    rw [hstatus]
  . intro hwhole
    have hbody : (go.text r.body).take (readLimit - (go.text r.head).length) = go.text r.body := by
      unfold text at hwhole
      rw [text_append, List.length_append] at hwhole
      exact List.take_of_length_le (by omega)
    rw [hbody]
    dsimp only
    constructor
    . exact isSome_excerptOf r.body
    . unfold mirrorHttp
      rw [go.HttpOutcome.mk.injEq, ← excerptOf_iff, hstatus]
      simp

theorem doHTTP_statusLine (h : readLimit ≤ (go.text r.statusLine).length)
    : ∃ goHttp, go.doHTTP (.answer (received (go.text r.text))) = .ok goHttp ∧ goHttp.headers = some [] := by
  have hraw : received (go.text r.text) = (go.text r.statusLine).take readLimit := by
    unfold received text head
    rw [text_append, text_unlines, List.cons_append, List.map_cons, List.flatMap_cons, List.append_assoc,
      List.append_assoc, List.take_append_of_le_length h]
  have hcr : 0x0D ∉ (go.text r.statusLine).take readLimit := fun hmem =>
    not_mem_text r.inLine_statusLine (List.mem_of_mem_take hmem)
  have hprefix : hasPrefix "HTTP/" ((go.text r.statusLine).take readLimit) = true := by
    have hwhole := r.hasPrefix_statusLine
    unfold hasPrefix at hwhole ⊢
    rw [decide_eq_true_eq] at hwhole ⊢
    exact List.prefix_take_iff.mpr ⟨hwhole, by decide⟩
  rw [hraw]
  generalize (go.text r.statusLine).take readLimit = raw at hcr hprefix
  have hcut : cut "\r\n\r\n" raw = none := by
    have hlate := Search.splitOnce_append (startsLate_crlf hcr crlf [])
    unfold cut
    rw [text_blankLine]
    rwa [List.append_nil] at hlate
  have hlines : headAndBody raw = ([raw], []) := by
    have hnot : ¬ crlf <:+: raw := fun hin => hcr (hin.subset List.mem_cons_self)
    unfold headAndBody
    rw [hcut, Option.getD_none, text_crlf]
    dsimp only
    rw [Search.splitAll_of_not_infix hnot]
  unfold go.doHTTP
  dsimp only
  rw [hlines]
  dsimp only
  rw [if_pos hprefix]
  exact ⟨_, rfl, rfl⟩

def labResponse (reason : String) (hreason : InLine reason) (body : String) : HttpResponse :=
  {
    minor := '1'
    code := ['2', '0', '0']
    reason := some reason
    headers := ["Server: nginx"]
    body := body
    isDigit_minor := by decide
    length_code := rfl
    isDigit_code := List.all_eq_true.mp (by decide : ['2', '0', '0'].all Char.isDigit = true)
    inLine_reason := by
      intro phrase hphrase
      cases hphrase
      exact hreason
    inLine_headers := by
      intro header hheader
      cases List.mem_singleton.mp hheader
      exact ⟨by decide, by decide⟩
    colon_headers := by
      intro header hheader
      cases List.mem_singleton.mp hheader
      decide
  }

theorem inLine_ok : InLine "OK" :=
  ⟨by decide, by decide⟩

theorem read_alike_lab
    : ∃ http goHttp,
        cli.parseHttp (labResponse "OK" inLine_ok "body here").text = some http
          ∧ go.doHTTP (.answer (received (go.text (labResponse "OK" inLine_ok "body here").text))) = .ok goHttp
          ∧ goHttp = mirrorHttp http := by
  have hplain : Excerpt.Plain 512 "body here".toList := ⟨by decide, by decide, .inr (by decide)⟩
  obtain ⟨http, goHttp, hrust, hgo, -, -, hwhole⟩ :=
    read_alike (labResponse "OK" inLine_ok "body here") (by decide)
  exact ⟨http, goHttp, hrust, hgo, (hwhole (by decide)).2.mpr (.inr hplain)⟩

theorem inLine_replicate (n : Nat) : InLine (String.ofList (List.replicate n 'x')) := by
  unfold InLine
  rw [String.toList_ofList]
  constructor
  . intro hmem
    cases List.eq_of_mem_replicate hmem
  . intro hmem
    cases List.eq_of_mem_replicate hmem

def textAtEnd : HttpResponse :=
  labResponse "OK" inLine_ok (String.ofList (List.replicate (readLimit - 1) ' ' ++ ['x']))

def longReason (n : Nat) : HttpResponse :=
  labResponse (String.ofList (List.replicate n 'x')) (inLine_replicate n) ""

theorem read_blank_front
    : ∃ http goHttp,
        cli.parseHttp (labResponse "OK" inLine_ok " a").text = some http
          ∧ go.doHTTP (.answer (received (go.text (labResponse "OK" inLine_ok " a").text))) = .ok goHttp
          ∧ goHttp.bodyExcerpt.isSome = true
          ∧ goHttp.bodyExcerpt ≠ http.bodyExcerpt.map go.text := by
  have hgo := (labResponse "OK" inLine_ok " a").doHTTP_received (by decide)
  have hbody : (go.text " a").take (readLimit - (go.text (labResponse "OK" inLine_ok " a").head).length)
      = go.text " a" := List.take_of_length_le (by decide)
  have hvisible : Text.trim " a" ≠ "" := by decide
  refine ⟨_, _, (labResponse "OK" inLine_ok " a").parseHttp_text, hgo, ?_, ?_⟩
  . dsimp only
    unfold labResponse at hbody ⊢
    rw [hbody, excerptOf_text, if_neg hvisible]
    rfl
  . dsimp only
    unfold labResponse at hbody ⊢
    rw [hbody, ne_eq, excerptOf_iff]
    rintro (hblank | hplain)
    . exact hvisible hblank
    . revert hplain
      rintro ⟨hfront, -, -⟩
      revert hfront
      decide

theorem text_replicate (n : Nat) : go.text (String.ofList (List.replicate n ' ')) = List.replicate n 0x20 := by
  unfold go.text Utf8.encode
  rw [String.toList_ofList]
  exact Utf8.encodeChars_replicate (by decide) n

theorem text_textAtEnd : go.text textAtEnd.body = List.replicate (readLimit - 1) 0x20 ++ [0x78] := by
  unfold textAtEnd labResponse
  dsimp only
  rw [String.ofList_append, text_append, text_replicate]
  rfl

theorem read_text_at_end
    : ∃ http goHttp,
        cli.parseHttp textAtEnd.text = some http
          ∧ go.doHTTP (.answer (received (go.text textAtEnd.text))) = .ok goHttp
          ∧ http.bodyExcerpt.isSome = true
          ∧ goHttp.bodyExcerpt = none := by
  have hgo := textAtEnd.doHTTP_received (by decide)
  have hhead : 0 < (go.text textAtEnd.head).length := by decide
  refine ⟨_, _, textAtEnd.parseHttp_text, hgo, ?_, ?_⟩
  . have hvisible : Text.trim textAtEnd.body ≠ "" := by
      rw [ne_eq, trim_eq_empty_iff, Excerpt.trimList_eq_nil_iff]
      intro hall
      cases hall 'x' (by unfold textAtEnd labResponse; simp)
    dsimp only
    rw [excerptOf_eq, if_neg hvisible]
    rfl
  . have hblank : ∀ n, Text.trim (String.ofList (List.replicate n ' ')) = "" := by
      intro n
      rw [trim_eq_empty_iff, Excerpt.trimList_eq_nil_iff, String.toList_ofList]
      intro c hc
      rw [List.eq_of_mem_replicate hc]
      decide
    dsimp only
    rw [text_textAtEnd, List.take_append_of_le_length (by rw [List.length_replicate]; omega), List.take_replicate,
      ← text_replicate, excerptOf_text, if_pos (hblank _)]

theorem read_long_reason {n : Nat} (h : readLimit ≤ n)
    : ∃ http goHttp,
        cli.parseHttp (longReason n).text = some http
          ∧ go.doHTTP (.answer (received (go.text (longReason n).text))) = .ok goHttp
          ∧ goHttp.headers ≠ some (http.headers.map mirrorField) := by
  have hlong : readLimit ≤ (go.text (longReason n).statusLine).length := by
    apply Nat.le_trans _ (Utf8.length_le_encodeChars _)
    unfold statusLine phrase longReason labResponse
    simp
    omega
  obtain ⟨goHttp, hgo, hheaders⟩ := (longReason n).doHTTP_statusLine hlong
  refine ⟨_, goHttp, (longReason n).parseHttp_text, hgo, ?_⟩
  have hfield : fieldOf "Server: nginx" = some ⟨"Server", ["nginx"]⟩ := by decide
  have hfields : (longReason n).headers.filterMap fieldOf = [⟨"Server", ["nginx"]⟩] := by
    have hlines : (longReason n).headers = ["Server: nginx"] := rfl
    rw [hlines, List.filterMap_cons_some hfield, List.filterMap_nil]
  rw [hheaders]
  dsimp only
  rw [hfields]
  simp

/--
The adapters do not agree on the text of an excerpt, and outside the limit neither on whether there is one nor on the
headers.
-/
theorem read_apart
    : (∃ http goHttp,
        cli.parseHttp (labResponse "OK" inLine_ok " a").text = some http
          ∧ go.doHTTP (.answer (received (go.text (labResponse "OK" inLine_ok " a").text))) = .ok goHttp
          ∧ goHttp.bodyExcerpt.isSome = true
          ∧ goHttp.bodyExcerpt ≠ http.bodyExcerpt.map go.text)
      ∧ ((go.text textAtEnd.body).length = 64 * 1024
        ∧ ∃ http goHttp,
          cli.parseHttp textAtEnd.text = some http
            ∧ go.doHTTP (.answer (received (go.text textAtEnd.text))) = .ok goHttp
            ∧ http.bodyExcerpt.isSome = true
            ∧ goHttp.bodyExcerpt = none)
      ∧ ∃ http goHttp,
        cli.parseHttp (longReason readLimit).text = some http
          ∧ go.doHTTP (.answer (received (go.text (longReason readLimit).text))) = .ok goHttp
          ∧ goHttp.headers ≠ some (http.headers.map mirrorField) := by
  refine ⟨read_blank_front, ⟨?_, read_text_at_end⟩, read_long_reason (Nat.le_refl readLimit)⟩
  rw [text_textAtEnd, List.length_append, List.length_replicate, List.length_singleton]
  unfold readLimit
  omega

end Limit

end HttpResponse

end PqCas
