/-
# The local HTTP proxy

`http_proxy_handshake` (`http_connect.rs`) reads the first request of a browser:
`CONNECT authority`, or a request in absolute form, which is rewritten for the origin.  The bytes of
the client are in three places while it runs: in lines that were read, in the buffer of the reader,
and in the socket.  Two budgets cut reads short: one for a line, and one for the block of headers.

* §1 is the code.  The lines that `read_header_line` returned are logged; nothing reads the log;
* §2: one line, and the loop over the header lines (`headerLines_run`);
* §3: the words of the request line, as a relation between the bytes and the words;
* §4: no byte is lost or moved, and no line is accepted in two parts (`http_proxy_conserves`).

The parser of URIs is a parameter.
-/
import BibaVpn.Lib.Fallible
import BibaVpn.Lib.LineReader
import BibaVpn.Wire.UdpWire

namespace BibaVpn.Client.HttpProxy

open Machine Wire LineReader

/-! ## 1. The code -/

/-- `MAX_HEADER_LINE_BYTES`. -/
def maxHeaderLineBytes : Nat := 8192

/-- `MAX_HEADER_BLOCK_BYTES`. -/
def maxHeaderBlockBytes : Nat := 64 * 1024

/-- `http::Uri`, by what is asked of it. -/
structure Uri where
  scheme : Option Text
  host : Option Text
  portU16 : Option Nat
  pathAndQuery : Option Text
  deriving DecidableEq, Repr

/-- `HttpProxyHandshake`. -/
inductive HttpProxyHandshake
  | connect (host : Text) (port : Nat) (clientPrefetch : Bytes)
  | forwardHttp (host : Text) (port : Nat) (toOrigin : Bytes)
  deriving DecidableEq, Repr

/-- The reader of a connection, and the lines that were read from it. -/
structure Session where
  reader : Reader
  lines : List Bytes

/-- A line, as bytes and as characters. -/
structure HeaderLine where
  bytes : Bytes
  text : Text

/-- `read_header_line`. -/
def readHeaderLine (remaining : Nat) (s : Session) : Except String HeaderLine × Session :=
  if remaining = 0 then (.error "http headers too large", s)
  else
    -- one extra byte, so that a line that is too long can be told from one that is not
    match readLine (min remaining (maxHeaderLineBytes + 1)) s.reader with
    | (.error e, reader) => (.error ("read header: " ++ e), { s with reader })
    | (.ok line, reader) =>
      match Text.fromUtf8 line with
      | none => (.error "read header: stream did not contain valid UTF-8", { s with reader })
      | some text =>
        if line.length > maxHeaderLineBytes then (.error "header line too long", { s with reader })
        else (.ok ⟨line, text⟩, ⟨reader, if line.isEmpty then s.lines else s.lines ++ [line]⟩)

/-- `line == "\r\n" || line == "\n"`. -/
def isBlank (line : Bytes) : Bool := line == [13, 10] || line == [10]

/-- The loop of `read_header_block` and `read_header_lines_into`: the header lines behind `out`.  A
turn takes a byte of the budget at least, so that the turns end with the budget. -/
def headerLines : Nat → Nat → Bytes → Session → Except String Bytes × Session
  | 0, _, _, s => (.error "http headers too large", s)
  | turns + 1, total, out, s =>
    match readHeaderLine (maxHeaderBlockBytes - total) s with
    | (.error e, s) => (.error e, s)
    | (.ok line, s) =>
      if line.bytes.isEmpty then (.error "unexpected eof in http headers", s)
      else if isBlank line.bytes then (.ok out, s)
      else headerLines turns (total + line.bytes.length) (out ++ line.bytes) s

/-- `read_header_lines_into`. -/
def readHeaderLinesInto (out : Bytes) (s : Session) : Except String Bytes × Session :=
  headerLines (maxHeaderBlockBytes + 1) 0 out s

/-- `read_header_block`. -/
def readHeaderBlock (s : Session) : Except String Unit × Session :=
  let (result, s) := readHeaderLinesInto [] s
  (result.map fun _ => (), s)

/-- `str::split_whitespace`. -/
def splitWhitespace (s : Text) : List Text := (s.splitOnP Text.isWhitespace).filter (· ≠ [])

/-- The three parts of a request line. -/
structure RequestLine where
  method : Text
  target : Text
  version : Text
  deriving DecidableEq, Repr

/-- The request line, from its text. -/
def parseRequestLine (line : Text) : Except String RequestLine :=
  match splitWhitespace (line.rdropWhile fun c => c == '\r' || c == '\n') with
  | [] => .error "empty request line"
  | [_] => .error "missing request target"
  | [_, _] => .error "missing HTTP version"
  | [method, target, version] => .ok ⟨method, target, version⟩
  | _ => .error "bad request line"

/-- The port behind an authority. -/
def parsePort (what : String) (p : Text) : Except String Nat :=
  Fallible.context what (Text.parseUnsigned 65535 p)

/-- `parse_authority`. -/
def parseAuthority (P : Platform) (auth : Text) : Except String (Text × Nat) :=
  let auth := Text.trim auth
  if auth.isEmpty then .error "empty authority"
  else if auth.head? = some '[' then
    match Text.splitOnce ']' auth with
    | none => .error "invalid IPv6 authority"
    | some (front, rest) =>
      let host := front.tail
      match rest with
      | [] => .ok (host, 443)
      | ':' :: p => (parsePort "IPv6 CONNECT port" p).map (host, ·)
      | _ => .error "IPv6 CONNECT: expected nothing or :port after ]"
  else
    match Text.splitAtLast ':' auth with
    | none => .ok (auth, 443)
    | some (h, rest) =>
      let p := rest.tail
      if !h.isEmpty && p.all Char.isDigit then do
        let port ← parsePort "CONNECT port" p
        if h.contains ':' then
          -- an IPv6 address without brackets
          if (P.parseV6 h).isSome then .ok (h, port)
          else .error "ambiguous authority; use bracketed IPv6"
        else .ok (h, port)
      else .ok (auth, 443)

/-- The target of a request in absolute form. -/
def forwardTarget (uri : Uri) : Except String (Text × Nat) := do
  let scheme ← uri.scheme.elim (.error "URI missing scheme") .ok
  if Text.eqIgnoreAsciiCase scheme "http".toList then
    let host ← uri.host.elim (.error "URI missing host") .ok
    return (host, uri.portU16.getD 80)
  else .error ("unsupported proxy URI scheme (" ++ String.ofList scheme ++
    "); use CONNECT for HTTPS targets")

/-- The path and query for the origin. -/
def originForm (uri : Uri) : Text := (uri.pathAndQuery.filter (· ≠ [])).getD ['/']

/-- The request line for the origin. -/
def rewrittenLine (line : RequestLine) (uri : Uri) : Bytes :=
  Text.toUtf8 (line.method ++ ' ' :: (originForm uri ++ ' ' :: (line.version ++ ['\r', '\n'])))

/-- `http_proxy_handshake`, behind its request line. -/
def dispatchRequest (P : Platform) (parseUri : Text → Except String Uri) (line : RequestLine)
    (s : Session) : Except String HttpProxyHandshake × Session :=
  if Text.eqIgnoreAsciiCase line.method "CONNECT".toList then
    match readHeaderBlock s with
    | (.error e, s) => (.error e, s)
    | (.ok (), s) =>
      ((parseAuthority P line.target).map fun (host, port) => .connect host port s.reader.buffer, s)
  else
    match Fallible.context "invalid request URI" (parseUri line.target) with
    | .error e => (.error e, s)
    | .ok uri =>
      match forwardTarget uri with
      | .error e => (.error e, s)
      | .ok (host, port) =>
        match readHeaderLinesInto (rewrittenLine line uri) s with
        | (.error e, s) => (.error e, s)
        | (.ok toOrigin, s) =>
          (.ok (.forwardHttp host port (toOrigin ++ [13, 10] ++ s.reader.buffer)), s)

/-- `http_proxy_handshake`: its result, and the session it leaves. -/
def httpProxyHandshake (P : Platform) (parseUri : Text → Except String Uri) (reads : List Read) :
    Except String HttpProxyHandshake × Session :=
  match readHeaderLine maxHeaderBlockBytes ⟨⟨[], reads⟩, []⟩ with
  | (.error e, s) => (.error e, s)
  | (.ok line, s) =>
    if line.bytes.isEmpty then (.error "empty request line", s)
    else
      match parseRequestLine line.text with
      | .error e => (.error e, s)
      | .ok request => dispatchRequest P parseUri request s

/-! ## 2. Lines -/

/-- **What `read_header_line` returns.** -/
structure LineRead (remaining : Nat) (line : HeaderLine) (s after : Session) : Prop where
  pending : s.reader.pending = line.bytes ++ after.reader.pending
  short : line.bytes.length ≤ maxHeaderLineBytes
  budget : line.bytes.length ≤ remaining
  text : Text.fromUtf8 line.bytes = some line.text
  logged : after.lines = if line.bytes.isEmpty then s.lines else s.lines ++ [line.bytes]
  /-- a line without its newline has used up the budget, or it is the end of the stream -/
  ended : Whole line.bytes ∨
    newline ∉ line.bytes ∧ (line.bytes.length = remaining ∨ after.reader.AtEnd)

variable {line : HeaderLine} {s after : Session} {total : Nat} {out : Bytes} {P : Platform}
  {remaining : Nat} {parseUri : Text → Except String Uri}
  {result : Except String HttpProxyHandshake} {reads : List Read}

theorem readHeaderLine_cases {result : Except String HeaderLine}
    (h : readHeaderLine remaining s = (result, after)) :
    (∃ e, result = .error e ∧ after.lines = s.lines) ∨
      ∃ line, result = .ok line ∧ LineRead remaining line s after := by
  unfold readHeaderLine at h
  by_cases hzero : remaining = 0
  · rw [if_pos hzero] at h
    cases h
    exact Or.inl ⟨_, rfl, rfl⟩
  rw [if_neg hzero] at h
  cases hread : readLine (min remaining (maxHeaderLineBytes + 1)) s.reader with
  | mk result reader =>
    rw [hread] at h
    cases result with
    | error e =>
      cases h
      exact Or.inl ⟨_, rfl, rfl⟩
    | ok bytes =>
      dsimp only at h
      cases htext : Text.fromUtf8 bytes with
      | none =>
        rw [htext] at h
        cases h
        exact Or.inl ⟨_, rfl, rfl⟩
      | some text =>
        rw [htext] at h
        dsimp only at h
        by_cases hlong : bytes.length > maxHeaderLineBytes
        · rw [if_pos hlong] at h
          cases h
          exact Or.inl ⟨_, rfl, rfl⟩
        rw [if_neg hlong] at h
        cases h
        obtain ⟨hpending, hle, hend⟩ := readLine_ok hread
        have hshort : bytes.length ≤ maxHeaderLineBytes := by omega
        have hbudget : bytes.length ≤ remaining := by omega
        refine Or.inr ⟨_, rfl, hpending, hshort, hbudget, htext, rfl, ?_⟩
        rcases hend with hwhole | ⟨hno, hfull | hend⟩
        · exact Or.inl hwhole
        · -- the limit of a line is not reached: it is one byte behind the longest line
          have hall : bytes.length = remaining := by omega
          exact Or.inr ⟨hno, Or.inl hall⟩
        · exact Or.inr ⟨hno, Or.inr hend⟩

theorem readHeaderLine_ok (h : readHeaderLine remaining s = (.ok line, after)) :
    LineRead remaining line s after := by
  rcases readHeaderLine_cases h with ⟨e, he, -⟩ | ⟨_, hline, hread⟩
  · cases he
  · cases hline
    exact hread

theorem readHeaderLine_error {e : String} (h : readHeaderLine remaining s = (.error e, after)) :
    after.lines = s.lines := by
  rcases readHeaderLine_cases h with ⟨_, -, hlines⟩ | ⟨_, hline, -⟩
  · exact hlines
  · cases hline

theorem isBlank_iff {line : Bytes} : isBlank line = true ↔ line = [13, 10] ∨ line = [10] := by
  rw [isBlank, Bool.or_eq_true, beq_iff_eq, beq_iff_eq]

theorem whole_of_isBlank {line : Bytes} (h : isBlank line = true) : Whole line := by
  rcases isBlank_iff.mp h with rfl | rfl
  · exact ⟨[13], by decide, rfl⟩
  · exact ⟨[], List.not_mem_nil, rfl⟩

/-- Without budget, or at the end of the stream, the loop fails and reads no line. -/
theorem headerLines_stuck {turns : Nat} {result : Except String Bytes}
    (h : maxHeaderBlockBytes ≤ total ∨ s.reader.AtEnd)
    (hrun : headerLines turns total out s = (result, after)) :
    ∃ e, result = .error e ∧ after.lines = s.lines := by
  cases turns with
  | zero =>
    cases hrun
    exact ⟨_, rfl, rfl⟩
  | succ turns =>
    rw [headerLines] at hrun
    cases hline : readHeaderLine (maxHeaderBlockBytes - total) s with
    | mk read mid =>
      rw [hline] at hrun
      cases read with
      | error e =>
        cases hrun
        exact ⟨e, rfl, readHeaderLine_error hline⟩
      | ok line =>
        have hread := readHeaderLine_ok hline
        have hempty : line.bytes = [] := by
          rcases h with h | ⟨hbuffer, hreads⟩
          · have := hread.budget
            exact List.length_eq_zero_iff.mp (by omega)
          · have hnil : s.reader.pending = [] := by
              rw [Reader.pending, hbuffer, hreads]
              rfl
            have hsplit := hread.pending
            rw [hnil] at hsplit
            exact (List.append_eq_nil_iff.mp hsplit.symm).1
        have hlines : mid.lines = s.lines := by rw [hread.logged, hempty]; rfl
        dsimp only at hrun
        rw [hempty] at hrun
        cases hrun
        exact ⟨_, rfl, hlines⟩

/-- **A run of the loop over the header lines**: `new` are the lines that it read. -/
structure HeaderRun (total : Nat) (out : Bytes) (s : Session) (result : Except String Bytes)
    (after : Session) (new : List Bytes) : Prop where
  logged : after.lines = s.lines ++ new
  short : ∀ line ∈ new, line.length ≤ maxHeaderLineBytes
  budget : total + new.flatten.length ≤ maxHeaderBlockBytes
  /-- only the last line can be without its newline -/
  whole : ∀ line ∈ new.dropLast, Whole line
  front : ∃ rest, s.reader.pending = new.flatten ++ rest
  /-- at a success, all lines are whole, the last one is the empty line, and no other is -/
  accepted : ∀ out', result = .ok out' → ∃ headers blank, new = headers ++ [blank] ∧
    isBlank blank = true ∧ (∀ line ∈ headers, Whole line ∧ isBlank line = false) ∧
    out' = out ++ headers.flatten ∧ s.reader.pending = new.flatten ++ after.reader.pending

theorem HeaderRun.failed {e : String} (hlines : after.lines = s.lines)
    (hb : total ≤ maxHeaderBlockBytes) : HeaderRun total out s (.error e) after [] where
  logged := by rw [hlines, List.append_nil]
  short := fun _ h => nomatch h
  budget := by simpa using hb
  whole := fun _ h => nomatch h
  front := ⟨s.reader.pending, rfl⟩
  accepted := fun _ h => nomatch h

/-- The empty line ends a run. -/
theorem HeaderRun.done (hread : LineRead (maxHeaderBlockBytes - total) line s after)
    (hb : total ≤ maxHeaderBlockBytes) (hblank : isBlank line.bytes = true) :
    HeaderRun total out s (.ok out) after [line.bytes] where
  logged := by
    have hne : line.bytes ≠ [] := by
      intro h
      rw [h] at hblank
      cases hblank
    rw [hread.logged, if_neg (by simpa using hne)]
  short := by
    intro l hl
    rw [List.mem_singleton.mp hl]
    exact hread.short
  budget := by
    have := hread.budget
    rw [List.flatten_singleton]
    omega
  whole := fun _ h => nomatch h
  front := ⟨after.reader.pending, by rw [List.flatten_singleton, hread.pending]⟩
  accepted := by
    intro out' hout
    cases hout
    refine ⟨[], line.bytes, rfl, hblank, (fun _ h => nomatch h), ?_, ?_⟩
    · rw [List.flatten_nil, List.append_nil]
    · rw [List.flatten_singleton, hread.pending]

/-- A line in front of a run. -/
theorem HeaderRun.cons {mid : Session} {result : Except String Bytes} {new : List Bytes}
    (hread : LineRead (maxHeaderBlockBytes - total) line s mid) (hne : line.bytes ≠ [])
    (hw : Whole line.bytes ∨ new = [] ∧ ∀ out', result ≠ .ok out')
    (hblank : isBlank line.bytes = false)
    (h : HeaderRun (total + line.bytes.length) (out ++ line.bytes) mid result after new) :
    HeaderRun total out s result after (line.bytes :: new) where
  logged := by
    have hlog := hread.logged
    rw [if_neg (by simpa using hne)] at hlog
    rw [h.logged, hlog, List.append_assoc]
    rfl
  short := by
    intro l hl
    rcases List.mem_cons.mp hl with rfl | hl
    · exact hread.short
    · exact h.short l hl
  budget := by
    have := h.budget
    rw [List.flatten_cons, List.length_append]
    omega
  whole := by
    intro l hl
    cases new with
    | nil => cases hl
    | cons next new =>
      rw [List.dropLast_cons_cons] at hl
      rcases List.mem_cons.mp hl with rfl | hl
      · exact hw.resolve_right fun h => nomatch h.1
      · exact h.whole l hl
  front := by
    obtain ⟨rest, hrest⟩ := h.front
    exact ⟨rest, by rw [hread.pending, hrest, List.flatten_cons, List.append_assoc]⟩
  accepted := by
    intro out' hout
    obtain ⟨headers, blank, rfl, hb, hheaders, hout', hpending⟩ := h.accepted out' hout
    refine ⟨line.bytes :: headers, blank, rfl, hb, ?_, ?_, ?_⟩
    · intro l hl
      rcases List.mem_cons.mp hl with rfl | hl
      · exact ⟨hw.resolve_right fun h => h.2 out' hout, hblank⟩
      · exact hheaders l hl
    · rw [hout', List.flatten_cons, List.append_assoc]
    · rw [hread.pending, hpending, List.flatten_cons, List.append_assoc]

/-- **Every run of the loop.** -/
theorem headerLines_run : ∀ {turns total : Nat} {out : Bytes} {s after : Session}
    {result : Except String Bytes}, total ≤ maxHeaderBlockBytes →
    headerLines turns total out s = (result, after) →
    ∃ new, HeaderRun total out s result after new := by
  intro turns
  induction turns with
  | zero =>
    intro total out s after result hb h
    cases h
    exact ⟨[], .failed rfl hb⟩
  | succ turns ih =>
    intro total out s after result hb h
    rw [headerLines] at h
    cases hline : readHeaderLine (maxHeaderBlockBytes - total) s with
    | mk read mid =>
      rw [hline] at h
      cases read with
      | error e =>
        cases h
        exact ⟨[], .failed (readHeaderLine_error hline) hb⟩
      | ok line =>
        have hread := readHeaderLine_ok hline
        dsimp only at h
        by_cases hempty : line.bytes.isEmpty = true
        · rw [if_pos hempty] at h
          cases h
          have hlines : after.lines = s.lines := by rw [hread.logged, if_pos hempty]
          exact ⟨[], .failed hlines hb⟩
        rw [if_neg hempty] at h
        have hne : line.bytes ≠ [] := by simpa using hempty
        have hbudget := hread.budget
        by_cases hblank : isBlank line.bytes = true
        · rw [if_pos hblank] at h
          cases h
          exact ⟨_, .done hread hb hblank⟩
        · rw [if_neg hblank] at h
          rcases hread.ended with hwhole | ⟨-, hstop⟩
          · obtain ⟨new, hrun⟩ := ih (by omega) h
            exact ⟨_, .cons hread hne (Or.inl hwhole) (by simpa using hblank) hrun⟩
          · -- the rest of the line is not read as a line of its own: the next turn fails
            have hstuck : maxHeaderBlockBytes ≤ total + line.bytes.length ∨ mid.reader.AtEnd :=
              hstop.imp (fun h => by omega) id
            obtain ⟨e, hfails, hlines⟩ := headerLines_stuck hstuck h
            rw [hfails]
            exact ⟨_, .cons hread hne (Or.inr ⟨rfl, fun _ h => nomatch h⟩) (by simpa using hblank)
              (.failed hlines (by omega))⟩

/-- **The turns do not run out**: more of them change nothing, once there is one for each byte of
the budget. -/
theorem headerLines_turns : ∀ {turns total : Nat} {out : Bytes} {s : Session},
    maxHeaderBlockBytes ≤ total + turns →
    headerLines (turns + 1) total out s = headerLines turns total out s := by
  intro turns
  induction turns with
  | zero =>
    intro total out s h
    have hzero : maxHeaderBlockBytes - total = 0 := by omega
    have hline : readHeaderLine 0 s = (.error "http headers too large", s) := if_pos rfl
    have hone : headerLines 1 total out s = (.error "http headers too large", s) := by
      rw [headerLines, hzero, hline]
    exact hone
  | succ turns ih =>
    intro total out s h
    rw [headerLines, headerLines]
    cases readHeaderLine (maxHeaderBlockBytes - total) s with
    | mk read mid =>
      cases read with
      | error e => rfl
      | ok line =>
        dsimp only
        by_cases hempty : line.bytes.isEmpty = true
        · rw [if_pos hempty, if_pos hempty]
        rw [if_neg hempty, if_neg hempty]
        have hpos : 0 < line.bytes.length := List.length_pos_iff.mpr (by simpa using hempty)
        by_cases hblank : isBlank line.bytes = true
        · rw [if_pos hblank, if_pos hblank]
        · rw [if_neg hblank, if_neg hblank, ih (by omega)]

/-! ## 3. The request line -/

/-- **A text has these words**: white space in front of each of them and behind the last, and none
in a word. -/
def HasWords : List Text → Text → Prop
  | [], s => ∀ c ∈ s, Text.isWhitespace c = true
  | w :: ws, s => ∃ lead rest, s = lead ++ (w ++ rest) ∧ (∀ c ∈ lead, Text.isWhitespace c = true) ∧
      w ≠ [] ∧ (∀ c ∈ w, Text.isWhitespace c = false) ∧
      (∀ c ∈ rest.head?, Text.isWhitespace c = true) ∧ HasWords ws rest

theorem splitWhitespace_space {c : Char} (hc : Text.isWhitespace c = true) (s : Text) :
    splitWhitespace (c :: s) = splitWhitespace s := by
  simp [splitWhitespace, List.splitOnP_cons_eq_if_modifyHead, hc]

theorem splitWhitespace_word {w rest : Text} (hne : w ≠ [])
    (hw : ∀ c ∈ w, Text.isWhitespace c = false)
    (hrest : ∀ c ∈ rest.head?, Text.isWhitespace c = true) :
    splitWhitespace (w ++ rest) = w :: splitWhitespace rest := by
  cases rest with
  | nil =>
    rw [List.append_nil, splitWhitespace, List.splitOnP_eq_singleton hw]
    simp [splitWhitespace, hne]
  | cons c rest =>
    have hc := hrest c rfl
    rw [splitWhitespace_space hc, splitWhitespace,
      List.splitOnP_append_cons_of_forall_mem hw c hc]
    simp [splitWhitespace, hne]

theorem hasWords_space {c : Char} {s : Text} {ws : List Text} (hc : Text.isWhitespace c = true)
    (h : HasWords ws s) : HasWords ws (c :: s) := by
  cases ws with
  | nil => exact List.forall_mem_cons.mpr ⟨hc, h⟩
  | cons w ws =>
    obtain ⟨lead, rest, rfl, hlead, hword⟩ := h
    exact ⟨c :: lead, rest, rfl, List.forall_mem_cons.mpr ⟨hc, hlead⟩, hword⟩

/-- **`split_whitespace` gives the words of a text.** -/
theorem hasWords_splitWhitespace (s : Text) : HasWords (splitWhitespace s) s := by
  -- on the length: behind a word the text goes on with what is left of it
  induction hn : s.length using Nat.strong_induction_on generalizing s with
  | _ n ih =>
    cases s with
    | nil => exact fun c hc => nomatch hc
    | cons c s =>
      subst hn
      cases hc : Text.isWhitespace c with
      | true =>
        rw [splitWhitespace_space hc]
        exact hasWords_space hc (ih s.length (Nat.lt_succ_self _) s rfl)
      | false =>
        obtain ⟨w, rest, hsplit, hw, hrest⟩ : ∃ w rest, s = w ++ rest ∧
            (∀ c ∈ w, Text.isWhitespace c = false) ∧
            ∀ c ∈ rest.head?, Text.isWhitespace c = true := by
          refine ⟨s.takeWhile (!Text.isWhitespace ·), s.dropWhile (!Text.isWhitespace ·),
            List.takeWhile_append_dropWhile.symm, fun d hd => ?_, fun d hd => ?_⟩
          · simpa using List.mem_takeWhile_imp hd
          · have hstop := List.head?_dropWhile_not (!Text.isWhitespace ·) s
            rw [Option.mem_def.mp hd] at hstop
            simpa using hstop
        have hword : ∀ d ∈ c :: w, Text.isWhitespace d = false :=
          List.forall_mem_cons.mpr ⟨hc, hw⟩
        have hlt : rest.length < (c :: s).length := by
          rw [hsplit, List.length_cons, List.length_append]
          omega
        rw [hsplit, ← List.cons_append, splitWhitespace_word (by simp) hword hrest]
        exact ⟨[], rest, rfl, fun d hd => (nomatch hd), by simp, hword, hrest, ih _ hlt rest rfl⟩

theorem HasWords.append {ws : List Text} {s tail : Text} (h : HasWords ws s)
    (ht : ∀ c ∈ tail, Text.isWhitespace c = true) : HasWords ws (s ++ tail) := by
  induction ws generalizing s with
  | nil => exact List.forall_mem_append.mpr ⟨h, ht⟩
  | cons w ws ih =>
    obtain ⟨lead, rest, rfl, hlead, hne, hw, hrest, hws⟩ := h
    refine ⟨lead, rest ++ tail, by simp, hlead, hne, hw, ?_, ih hws⟩
    cases rest with
    | nil => exact fun c hc => ht c (List.mem_of_mem_head? hc)
    | cons c rest => exact hrest

/-- The line is the text of these three words. -/
def RequestWords (line : Bytes) (method target version : Text) : Prop :=
  ∃ text, line = Text.toUtf8 text ∧ HasWords [method, target, version] text

/-- What the code takes for the request line are its words. -/
theorem requestWords {request : RequestLine} (htext : Text.fromUtf8 line.bytes = some line.text)
    (h : parseRequestLine line.text = .ok request) :
    RequestWords line.bytes request.method request.target request.version := by
  refine ⟨line.text, (Text.toUtf8_of_fromUtf8 htext).symm, ?_⟩
  have hends : ∀ c : Char, (c == '\r' || c == '\n') = true → Text.isWhitespace c = true := by
    intro c hc
    rw [Bool.or_eq_true, beq_iff_eq, beq_iff_eq] at hc
    rcases hc with rfl | rfl <;> decide
  have htail : ∀ c ∈ line.text.rtakeWhile fun c => c == '\r' || c == '\n',
      Text.isWhitespace c = true := fun c hc =>
    hends c (List.mem_rtakeWhile_imp (p := fun c => c == '\r' || c == '\n') hc)
  have hwords := hasWords_splitWhitespace (line.text.rdropWhile fun c => c == '\r' || c == '\n')
  have hall := hwords.append htail
  rw [List.rdropWhile_append_rtakeWhile] at hall
  unfold parseRequestLine at h
  split at h
  all_goals cases h
  rename_i hthree
  rwa [hthree] at hall

/-- The path and query that the origin is asked for: those of the URI, or `/`. -/
def AsksFor (uri : Uri) (path : Text) : Prop :=
  uri.pathAndQuery = some path ∧ path ≠ [] ∨
    (uri.pathAndQuery = none ∨ uri.pathAndQuery = some []) ∧ path = ['/']

theorem asksFor_originForm (uri : Uri) : AsksFor uri (originForm uri) := by
  unfold AsksFor originForm
  cases uri.pathAndQuery with
  | none => exact Or.inr ⟨Or.inl rfl, rfl⟩
  | some path =>
    by_cases hnil : path = []
    · subst hnil
      exact Or.inr ⟨Or.inr rfl, rfl⟩
    · have hsame : (Option.filter (· ≠ []) (some path)).getD ['/'] = path := by
        rw [Option.filter_some, if_pos (by simpa using hnil)]
        rfl
      rw [hsame]
      exact Or.inl ⟨rfl, hnil⟩

/-! ## 4. What becomes of the bytes -/

/-- What the request makes of a run over its header lines. -/
def Concludes (parseUri : Text → Except String Uri) (line : RequestLine) (after : Session)
    (out : Bytes) (run : Except String Bytes) (result : Except String HttpProxyHandshake) : Prop :=
  (∃ e, result = .error e) ∨
    (∃ host port lines, run = .ok lines ∧ result = .ok (.connect host port after.reader.buffer)) ∨
    ∃ uri host port toOrigin, parseUri line.target = .ok uri ∧ out = rewrittenLine line uri ∧
      run = .ok toOrigin ∧
      result = .ok (.forwardHttp host port (toOrigin ++ [13, 10] ++ after.reader.buffer))

/-- A request fails before its headers are read, or it is concluded from a run over them. -/
theorem dispatchRequest_cases {line : RequestLine}
    (h : dispatchRequest P parseUri line s = (result, after)) :
    (∃ e, result = .error e) ∧ after = s ∨
      ∃ out run, readHeaderLinesInto out s = (run, after) ∧
        Concludes parseUri line after out run result := by
  unfold dispatchRequest at h
  by_cases hconnect : Text.eqIgnoreAsciiCase line.method "CONNECT".toList = true
  · rw [if_pos hconnect, readHeaderBlock] at h
    cases hrun : readHeaderLinesInto [] s with
    | mk run mid =>
      rw [hrun] at h
      cases run with
      | error e =>
        cases h
        exact Or.inr ⟨[], _, hrun, Or.inl ⟨e, rfl⟩⟩
      | ok lines =>
        cases h
        refine Or.inr ⟨[], _, hrun, ?_⟩
        cases parseAuthority P line.target with
        | error e => exact Or.inl ⟨e, rfl⟩
        | ok target => exact Or.inr (Or.inl ⟨target.1, target.2, lines, rfl, rfl⟩)
  · rw [if_neg hconnect] at h
    cases huri : Fallible.context "invalid request URI" (parseUri line.target) with
    | error e =>
      rw [huri] at h
      cases h
      exact Or.inl ⟨⟨e, rfl⟩, rfl⟩
    | ok uri =>
      rw [huri] at h
      dsimp only at h
      cases htarget : forwardTarget uri with
      | error e =>
        rw [htarget] at h
        cases h
        exact Or.inl ⟨⟨e, rfl⟩, rfl⟩
      | ok target =>
        rw [htarget] at h
        dsimp only at h
        refine Or.inr ⟨rewrittenLine line uri, ?_⟩
        cases hrun : readHeaderLinesInto (rewrittenLine line uri) s with
        | mk run mid =>
          rw [hrun] at h
          cases run with
          | error e =>
            cases h
            exact ⟨_, rfl, Or.inl ⟨e, rfl⟩⟩
          | ok toOrigin =>
            cases h
            exact ⟨_, rfl, Or.inr (Or.inr ⟨uri, target.1, target.2, toOrigin,
              Fallible.context_eq_ok.mp huri, rfl, rfl, rfl⟩)⟩

/-- **Every run of the handshake**: it fails without a line; or behind one line, which may be cut
off; or there is a whole request line, and a run over the header lines behind it. -/
theorem handshake_cases (h : httpProxyHandshake P parseUri reads = (result, s)) :
    (∃ e, result = .error e) ∧ s.lines = [] ∨
      (∃ e line rest, result = .error e ∧ s.lines = [line] ∧ line.length ≤ maxHeaderLineBytes ∧
        unread reads = line ++ rest) ∨
      ∃ (line : HeaderLine) (request : RequestLine) (mid : Session) (out : Bytes)
        (run : Except String Bytes) (new : List Bytes), Whole line.bytes ∧
        Text.fromUtf8 line.bytes = some line.text ∧ line.bytes.length ≤ maxHeaderLineBytes ∧
        parseRequestLine line.text = .ok request ∧ mid.lines = [line.bytes] ∧
        unread reads = line.bytes ++ mid.reader.pending ∧ HeaderRun 0 out mid run s new ∧
        Concludes parseUri request s out run result := by
  unfold httpProxyHandshake at h
  cases hline : readHeaderLine maxHeaderBlockBytes ⟨⟨[], reads⟩, []⟩ with
  | mk read mid =>
    rw [hline] at h
    cases read with
    | error e =>
      cases h
      exact Or.inl ⟨⟨e, rfl⟩, readHeaderLine_error hline⟩
    | ok line =>
      have hread := readHeaderLine_ok hline
      have hpending : unread reads = line.bytes ++ mid.reader.pending := hread.pending
      dsimp only at h
      by_cases hempty : line.bytes.isEmpty = true
      · rw [if_pos hempty] at h
        cases h
        have hlines := hread.logged
        rw [if_pos hempty] at hlines
        exact Or.inl ⟨⟨_, rfl⟩, hlines⟩
      rw [if_neg hempty] at h
      have hlines : mid.lines = [line.bytes] := by rw [hread.logged, if_neg hempty]; rfl
      cases hrequest : parseRequestLine line.text with
      | error e =>
        rw [hrequest] at h
        cases h
        exact Or.inr (Or.inl ⟨e, line.bytes, _, rfl, hlines, hread.short, hpending⟩)
      | ok request =>
        rw [hrequest] at h
        dsimp only at h
        refine Or.inr ?_
        rcases dispatchRequest_cases h with ⟨⟨e, rfl⟩, rfl⟩ | ⟨out, run, hrun, hconcludes⟩
        · exact Or.inl ⟨e, line.bytes, _, rfl, hlines, hread.short, hpending⟩
        rcases hread.ended with hwhole | ⟨-, hfull | hend⟩
        · obtain ⟨new, hnew⟩ := headerLines_run (Nat.zero_le _) hrun
          exact Or.inr ⟨line, request, mid, out, run, new, hwhole, hread.text, hread.short,
            hrequest, hlines, hpending, hnew, hconcludes⟩
        · -- a line never has the size of the block
          have hshort := hread.short
          have hsizes : maxHeaderLineBytes < maxHeaderBlockBytes := by decide
          omega
        · -- behind a request line that the end of the stream cut off there are no headers
          obtain ⟨e, rfl, hafter⟩ := headerLines_stuck (Or.inr hend) hrun
          refine Or.inl ?_
          rcases hconcludes with ⟨e', rfl⟩ | ⟨_, _, _, hok, -⟩ | ⟨_, _, _, _, -, -, hok, -⟩
          · exact ⟨e', line.bytes, _, rfl, hafter.trans hlines, hread.short, hpending⟩
          · cases hok
          · cases hok

/-- The head of a request: whole lines, of which the last is the empty one, and no other. -/
structure Head where
  requestLine : Bytes
  headers : List Bytes
  blank : Bytes
  requestLine_whole : Whole requestLine
  headers_whole : ∀ line ∈ headers, Whole line ∧ ¬ (line = [13, 10] ∨ line = [10])
  blank_empty : blank = [13, 10] ∨ blank = [10]

def Head.bytes (head : Head) : Bytes := head.requestLine ++ (head.headers.flatten ++ head.blank)

/-- **What the proxy does with a stream.** -/
structure Conserves (P : Platform) (parseUri : Text → Except String Uri) (reads : List Read) :
    Prop where
  /-- `CONNECT`: the head, the prefetched bytes and the unread ones are the stream -/
  connect : ∀ host port prefetch s,
    httpProxyHandshake P parseUri reads = (.ok (.connect host port prefetch), s) →
    ∃ head : Head, head.bytes ++ prefetch ++ unread s.reader.reads = unread reads
  /-- absolute form: the method, the path and query of the target, the version and CRLF; the header
  lines; CRLF; and the rest of the stream -/
  forward : ∀ host port toOrigin s,
    httpProxyHandshake P parseUri reads = (.ok (.forwardHttp host port toOrigin), s) →
    ∃ (head : Head) (rest : Bytes) (method target version path : Text) (uri : Uri),
      unread reads = head.bytes ++ rest ∧ RequestWords head.requestLine method target version ∧
      parseUri target = .ok uri ∧ AsksFor uri path ∧
      toOrigin ++ unread s.reader.reads =
        Text.toUtf8 method ++ [32] ++ Text.toUtf8 path ++ [32] ++ Text.toUtf8 version ++ [13, 10] ++
          head.headers.flatten ++ [13, 10] ++ rest
  /-- no line is accepted that is too long -/
  lineLimit : ∀ line ∈ (httpProxyHandshake P parseUri reads).2.lines, line.length ≤ 8192
  /-- no block of headers is accepted that is too long -/
  blockLimit : ((httpProxyHandshake P parseUri reads).2.lines.drop 1).flatten.length ≤ 65536
  /-- the accepted lines are what the stream begins with -/
  front : ∃ rest, unread reads = (httpProxyHandshake P parseUri reads).2.lines.flatten ++ rest
  /-- only the last of them can be cut off, and then the request is refused -/
  notSplit : ∀ line ∈ (httpProxyHandshake P parseUri reads).2.lines.dropLast, Whole line
  whole : ∀ result s, httpProxyHandshake P parseUri reads = (.ok result, s) →
    ∀ line ∈ s.lines, Whole line

/-- The lines of a head, from a run that succeeded. -/
theorem head_of_run {mid : Session} {out' : Bytes} {new : List Bytes} (hwhole : Whole line.bytes)
    (hrun : HeaderRun 0 out mid (.ok out') s new) :
    ∃ head : Head, head.requestLine = line.bytes ∧ new = head.headers ++ [head.blank] ∧
      out' = out ++ head.headers.flatten ∧
      line.bytes ++ mid.reader.pending = head.bytes ++ s.reader.pending := by
  obtain ⟨headers, blank, hnew, hblank, hheaders, hout, hpending⟩ := hrun.accepted out' rfl
  refine ⟨⟨line.bytes, headers, blank, hwhole, fun l hl => ⟨(hheaders l hl).1, fun he => ?_⟩,
    isBlank_iff.mp hblank⟩, rfl, hnew, hout, ?_⟩
  · have hfull := (hheaders l hl).2
    rw [isBlank_iff.mpr he] at hfull
    cases hfull
  rw [hpending, hnew, Head.bytes]
  simp only [List.flatten_append, List.flatten_singleton, List.append_assoc]

/-- A handshake that succeeds has read a whole request line and a block of headers. -/
theorem handshake_ok {result : HttpProxyHandshake}
    (h : httpProxyHandshake P parseUri reads = (.ok result, s)) :
    ∃ (line : HeaderLine) (request : RequestLine) (out lines : Bytes) (head : Head),
      parseRequestLine line.text = .ok request ∧ head.requestLine = line.bytes ∧
      Text.fromUtf8 line.bytes = some line.text ∧
      s.lines = line.bytes :: (head.headers ++ [head.blank]) ∧ lines = out ++ head.headers.flatten ∧
      unread reads = head.bytes ++ s.reader.pending ∧
      Concludes parseUri request s out (.ok lines) (.ok result) := by
  rcases handshake_cases h with ⟨⟨e, he⟩, -⟩ | ⟨e, _, _, he, -⟩ |
    ⟨line, request, mid, out, run, new, hwhole, htext, -, hrequest, hmid, hstream, hnew, hconcludes⟩
  · cases he
  · cases he
  obtain ⟨lines, rfl⟩ : ∃ lines, run = .ok lines := by
    rcases hconcludes with ⟨e, he⟩ | ⟨_, _, lines, hok, -⟩ | ⟨_, _, _, lines, -, -, hok, -⟩
    · cases he
    · exact ⟨lines, hok⟩
    · exact ⟨lines, hok⟩
  obtain ⟨head, hline, hlines, hout, hbytes⟩ := head_of_run hwhole hnew
  refine ⟨line, request, out, lines, head, hrequest, hline, htext, ?_, hout, hstream.trans hbytes,
    hconcludes⟩
  rw [hnew.logged, hmid, hlines, List.singleton_append]

/-- What holds of the log of every handshake. -/
structure LogLimits (reads : List Read) (lines : List Bytes) : Prop where
  short : ∀ line ∈ lines, line.length ≤ maxHeaderLineBytes
  block : (lines.drop 1).flatten.length ≤ maxHeaderBlockBytes
  front : ∃ rest, unread reads = lines.flatten ++ rest
  notSplit : ∀ line ∈ lines.dropLast, Whole line

theorem logLimits (h : httpProxyHandshake P parseUri reads = (result, s)) :
    LogLimits reads s.lines := by
  rcases handshake_cases h with ⟨-, hnil⟩ | ⟨_, line, rest, -, hone, hshort, hstream⟩ |
    ⟨line, request, mid, out, run, new, hwhole, -, hshort, -, hmid, hstream, hnew, -⟩
  · rw [hnil]
    exact ⟨(fun _ h => nomatch h), Nat.zero_le _, ⟨unread reads, rfl⟩, fun _ h => nomatch h⟩
  · rw [hone]
    refine ⟨?_, Nat.zero_le _, ⟨rest, by rw [hstream, List.flatten_singleton]⟩,
      fun _ h => nomatch h⟩
    intro l hl
    rw [List.mem_singleton.mp hl]
    exact hshort
  · have hbudget := hnew.budget
    obtain ⟨rest, hrest⟩ := hnew.front
    rw [Nat.zero_add] at hbudget
    rw [hnew.logged, hmid, List.singleton_append]
    refine ⟨?_, hbudget, ⟨rest, ?_⟩, ?_⟩
    · intro l hl
      rcases List.mem_cons.mp hl with rfl | hl
      · exact hshort
      · exact hnew.short l hl
    · rw [hstream, hrest, List.flatten_cons, List.append_assoc]
    · intro l hl
      cases new with
      | nil => cases hl
      | cons next new =>
        rw [List.dropLast_cons_cons] at hl
        rcases List.mem_cons.mp hl with rfl | hl
        · exact hwhole
        · exact hnew.whole l hl

/-- **The proxy conserves the bytes of its client**, for every stream and every way it is split into
reads; and in every run it keeps to its limits and splits no line. -/
theorem http_proxy_conserves (P : Platform) (parseUri : Text → Except String Uri)
    (reads : List Read) : Conserves P parseUri reads where
  connect host port prefetch s h := by
    obtain ⟨line, request, out, lines, head, -, -, -, -, -, hstream, hconcludes⟩ := handshake_ok h
    refine ⟨head, ?_⟩
    rcases hconcludes with ⟨e, he⟩ | ⟨_, _, _, -, hresult⟩ | ⟨_, _, _, _, -, -, -, hresult⟩
    · cases he
    · cases hresult
      rw [hstream, List.append_assoc]
      rfl
    · cases hresult
  forward host port toOrigin s h := by
    obtain ⟨line, request, out, lines, head, hrequest, hline, htext, -, hout, hstream,
        hconcludes⟩ :=
      handshake_ok h
    rcases hconcludes with ⟨e, he⟩ | ⟨_, _, _, -, hresult⟩ |
      ⟨uri, _, _, _, huri, rfl, hlines, hresult⟩
    · cases he
    · cases hresult
    · cases hlines
      cases hresult
      have hfirst : rewrittenLine request uri = Text.toUtf8 request.method ++ [32] ++
          Text.toUtf8 (originForm uri) ++ [32] ++ Text.toUtf8 request.version ++ [13, 10] := by
        have hspace : ∀ t, Text.toUtf8 (' ' :: t) = [32] ++ Text.toUtf8 t := fun _ => rfl
        have hcrlf : Text.toUtf8 ['\r', '\n'] = [13, 10] := by decide
        simp only [rewrittenLine, Text.toUtf8_append, hspace, hcrlf, List.append_assoc]
      refine ⟨head, s.reader.pending, request.method, request.target, request.version,
        originForm uri, uri, hstream, hline ▸ requestWords htext hrequest, huri,
        asksFor_originForm uri, ?_⟩
      rw [hout, hfirst]
      simp only [Reader.pending, List.append_assoc]
  lineLimit := (logLimits rfl).short
  blockLimit := (logLimits rfl).block
  front := (logLimits rfl).front
  notSplit := (logLimits rfl).notSplit
  whole result s h line hline := by
    obtain ⟨first, request, out, lines, head, -, hfirst, -, hlines, -, -, -⟩ := handshake_ok h
    rw [hlines] at hline
    rcases List.mem_cons.mp hline with rfl | hline
    · rw [← hfirst]
      exact head.requestLine_whole
    rcases List.mem_append.mp hline with hline | hline
    · exact (head.headers_whole line hline).1
    · rw [List.mem_singleton.mp hline]
      exact whole_of_isBlank (isBlank_iff.mpr head.blank_empty)

/-- A parser that knows one URI. -/
def oneUri (target : Text) : Except String Uri :=
  if target = "http://h/a?b".toList then
    .ok ⟨some "http".toList, some ['h'], none, some "/a?b".toList⟩
  else .error "invalid uri character"

/-- Texts as they arrive, one after the other. -/
def arriving (texts : List String) : List Read :=
  texts.filterMap fun t => match Text.toUtf8 t.toList with
    | [] => none
    | b :: bs => some (.data b bs)

/-- `CONNECT`, with bytes behind its head in the buffer and in the socket; and a request in absolute
form, cut between the two bytes of a line end. -/
theorem http_proxy_conserves_results :
    (httpProxyHandshake .ascii oneUri
      (arriving ["CONNECT h:1 HT", "TP/1.1\r\n\r\nab", "c"])).1 =
        .ok (.connect ['h'] 1 [97, 98]) ∧
    (httpProxyHandshake .ascii oneUri
      (arriving ["GET http://h/a?b HTTP/1.1\r\nHost: h\r", "\n\r\nx", "y"])).1 =
        .ok (.forwardHttp ['h'] 80
          (Text.toUtf8 "GET /a?b HTTP/1.1\r\nHost: h\r\n\r\nx".toList)) ∧
    ∃ head : Head, head.bytes ++ [97, 98] ++ [99] =
      unread (arriving ["CONNECT h:1 HT", "TP/1.1\r\n\r\nab", "c"]) := by
  have hconnect : (httpProxyHandshake .ascii oneUri
      (arriving ["CONNECT h:1 HT", "TP/1.1\r\n\r\nab", "c"])).1 =
        .ok (.connect ['h'] 1 [97, 98]) := by decide +kernel
  have hsocket : unread (httpProxyHandshake .ascii oneUri
      (arriving ["CONNECT h:1 HT", "TP/1.1\r\n\r\nab", "c"])).2.reader.reads = [99] := by
    decide +kernel
  obtain ⟨head, hhead⟩ := (http_proxy_conserves .ascii oneUri _).connect ['h'] 1 [97, 98] _
    (Prod.ext hconnect rfl)
  exact ⟨hconnect, by decide +kernel, head, hsocket ▸ hhead⟩

end BibaVpn.Client.HttpProxy
