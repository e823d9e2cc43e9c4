/-
# A desktop profile and the client it starts

The desktop app writes the settings of a profile into a JSON object (`config.rs`,
`start_config_json`), and the client reads its options from it.  The two sides are maintained apart,
and a key that the reader does not know is ignored.

* §1 is the writer: one entry a key, left out where the setting is blank, zero or the default;
* §2 reads the object back: what `StartJson` gets from a profile without an invite;
* §3 follows every setting into the options.  All of them arrive, except those of REALITY, which the
  reader does not look for, and those of the decoy requests where the profile does not switch these
  on itself.
-/
import BibaVpn.Client.StartJson

namespace BibaVpn.Apps.Desktop

open Json Fallible Machine Client
open Wire (PadMode)

/-! ## 1. The profile and its object -/

/-- `TunnelProfile`, with the settings of the tunnel. -/
structure TunnelProfile where
  server : Text
  token : Text
  psk : Text
  sni : Text
  insecure : Bool
  maxPad : UInt8
  decoyMax : UInt8
  maxWsBinary : UInt64
  tlsProfile : Text
  fromInvite : Text
  invitePassphrase : Text
  junkFrames : UInt32
  earlyWsFrames : UInt8
  wsPingSecs : UInt64
  wsHeaders : Text
  useTcpMux : Bool
  wsPath : Text
  padMode : Text
  wsPingJitterPercent : UInt8
  wsBinarySendJitterMs : UInt8
  udpMaxPad : Text
  udpMaxWsBinary : Text
  udpMuxReplyTimeoutSecs : Text
  dummyIntervalSecs : UInt64
  decoyGets : Bool
  decoyGetsIntervalSecs : UInt64
  decoyGetsPaths : Text
  pinCertPem : Text
  splitTunnelEnabled : Bool
  splitTunnelPresetIds : List Text
  proto : UInt8
  protoDomain : Text
  stealthProfile : Text
  decoyMode : Text
  desyncMode : Text
  tcpFooling : Text
  tlsFragment : Bool
  wsParallel : UInt8
  idleDecoySecs : UInt64
  tlsStack : Text
  fingerprint : Text
  realityTarget : Text
  realityPublicKey : Text
  realityShortId : Text
  wsHost : Text
  wsOrigin : Text
  wsUserAgent : Text
  wsAcceptLanguage : Text
  wsJitterMinMs : UInt8
  wsJitterMaxMs : UInt8

/-- What the app has outside the profile: `str::to_lowercase`, and the cache of its presets. -/
structure Surroundings where
  toLowercase : Text → Text
  /-- the domains of the preset with this id -/
  byId : Text → Option (List Text)

/-- `MAX_DOMAIN_LEN`. -/
def maxDomainLen : Nat := 512

/-- `MAX_SPLIT_DOMAINS`. -/
def maxSplitDomains : Nat := 4096

/-- `normalize_domain` (`bypass_domains.rs`): nothing that separates entries of a proxy list. -/
def normalizePresetDomain (raw : Text) : Option Text :=
  let t := Text.trim raw
  if t.isEmpty || Text.len t > maxDomainLen then none
  else if t.any fun c => Text.isControl c || Text.isWhitespace c ||
      ";,'\"\\`".toList.contains c then none
  else if (Text.trimEndMatches '.' t).isEmpty then none
  else some (Text.toAsciiLowercase (Text.trimEndMatches '.' t))

/-- A domain is pushed unless it is there. -/
def pushDomain (out : List Text) (d : Text) : List Text :=
  match normalizePresetDomain d with
  | some n => if out.any (Text.eqIgnoreAsciiCase · n) then out else out ++ [n]
  | none => out

/-- `cached_domains_for_preset_ids`. -/
def Surroundings.cachedDomains (e : Surroundings) (ids : List Text) : List Text :=
  ids.foldl (fun out id => if (Text.trim id).isEmpty then out
    else ((e.byId (Text.trim id)).getD []).foldl pushDomain out) []

/-- `normalized_domains` (`split_tunnel.rs`). -/
def Surroundings.normalizedDomains (e : Surroundings) (ids : List Text) : List Text :=
  (e.cachedDomains ids).foldl
    (fun out d => if out.length ≥ maxSplitDomains then out else pushDomain out d) []

/-- The profile is used with its invite. -/
def TunnelProfile.useInvite (p : TunnelProfile) : Bool :=
  !(Text.trim p.fromInvite).isEmpty && !p.invitePassphrase.isEmpty

/-- `bypass_domains_for_profile`. -/
def bypassDomainsForProfile (e : Surroundings) (p : TunnelProfile) : List Text :=
  if p.splitTunnelEnabled then e.normalizedDomains p.splitTunnelPresetIds else []

/-- The lines of `ws_headers`. -/
def TunnelProfile.headerLines (p : TunnelProfile) : List Text :=
  ((Text.lines p.wsHeaders).map Text.trim).filter fun l => !l.isEmpty

/-- A list, if it has elements. -/
def nonEmpty (xs : List Text) : Option (List Text) := if xs.isEmpty then none else some xs

/-- A number, if it is not zero. -/
def positive8 (n : UInt8) : Option UInt8 := if 0 < n then some n else none

def positive64 (n : UInt64) : Option UInt64 := if 0 < n then some n else none

/-- A setting that is a number in a text field: none if the field is blank. -/
def numberIn (top : Nat) (error : String) (s : Text) : Except String (Option Nat) :=
  match Text.nonBlank s with
  | none => .ok none
  | some t => ((Text.parseUnsigned top t).mapError fun _ => error).map some

namespace TunnelProfile

def udpPad (p : TunnelProfile) : Except String (Option Nat) :=
  numberIn 255 "udp_max_pad: нужно число 0–255" p.udpMaxPad

/-- A zero is taken for a blank field here. -/
def udpBinary (p : TunnelProfile) : Except String (Option Nat) :=
  (numberIn u64Max "udp_max_ws_binary: нужно число" p.udpMaxWsBinary).map
    (Option.filter fun v => 0 < v)

def udpTimeout (p : TunnelProfile) : Except String (Option Nat) :=
  numberIn u64Max "udp_mux_reply_timeout_secs: нужно число (сек)" p.udpMuxReplyTimeoutSecs

/-- `tls_profile` is written without an invite, unless it is the default. -/
def chosenTls (p : TunnelProfile) : Option Text :=
  (Text.nonBlank p.tlsProfile).filter fun t => t != "default".toList

/-- `tls_stack`, unless it is the default. -/
def chosenStack (e : Surroundings) (p : TunnelProfile) : Option Text :=
  let t := e.toLowercase (Text.trim p.tlsStack)
  if t.isEmpty || t == "rustls".toList then none else some t

def chosenProto (p : TunnelProfile) : Option UInt8 :=
  if max p.proto 1 = 3 then none else some (max p.proto 1)

/-- Both the target and the key are set. -/
def reality (p : TunnelProfile) : Bool :=
  !(Text.trim p.realityTarget).isEmpty && !(Text.trim p.realityPublicKey).isEmpty

/-- What is written with an invite, and without one. -/
def identity (p : TunnelProfile) : Entries :=
  if p.useInvite then
    [("from_invite", some (.str (Text.trim p.fromInvite))),
      ("invite_passphrase", some (.str p.invitePassphrase)), ("server", some (.str [])),
      ("token", none), ("tls_profile", none),
      ("proto_domain", (Text.nonBlank p.protoDomain).map .str)]
  else
    [("from_invite", none), ("invite_passphrase", none),
    ("server", some (.str (Text.trim p.server))),
      ("token", some (.str p.token)), ("tls_profile", p.chosenTls.map .str),
      ("proto_domain", some (.str ((Text.nonBlank p.protoDomain).getD "default".toList)))]

/-- What is written in either case, with the numbers of the three text fields. -/
def settings (e : Surroundings) (p : TunnelProfile) (udpPad udpBinary udpTimeout : Option Nat) :
    Entries :=
  [("sni", (Text.nonBlank p.sni).map .str),
    ("socks_bind", some (.str "127.0.0.1:0".toList)),
    ("insecure", some (.bool p.insecure)),
    ("max_pad", some (.num p.maxPad.toNat)),
    ("decoy_max", some (.num p.decoyMax.toNat)),
    ("junk_frames", some (.num p.junkFrames.toNat)),
    ("early_ws_frames", some (.num p.earlyWsFrames.toNat)),
    ("max_ws_binary", some (.num p.maxWsBinary.toNat)),
    ("ws_ping_secs", some (.num p.wsPingSecs.toNat)),
    ("use_tcp_mux", some (.bool p.useTcpMux)),
    ("ws_path", (Text.nonBlank p.wsPath).map .str),
    ("pad_mode", (Text.nonBlank p.padMode).map .str),
    ("ws_ping_jitter_percent", (positive8 (min p.wsPingJitterPercent 50)).map (.num ·.toNat)),
    ("ws_binary_send_jitter_ms", (positive8 p.wsBinarySendJitterMs).map (.num ·.toNat)),
    ("ws_jitter_min_ms", (positive8 p.wsJitterMinMs).map (.num ·.toNat)),
    ("ws_jitter_max_ms", (positive8 p.wsJitterMaxMs).map (.num ·.toNat)),
    ("udp_max_pad", udpPad.map .num),
    ("udp_max_ws_binary", udpBinary.map .num),
    ("udp_mux_reply_timeout_secs", udpTimeout.map .num),
    ("dummy_interval_secs", (positive64 p.dummyIntervalSecs).map (.num ·.toNat)),
    ("decoy_gets", if p.decoyGets then some (.bool true) else none),
    ("decoy_gets_interval_secs",
      if p.decoyGets then some (.num (max p.decoyGetsIntervalSecs 1).toNat) else none),
    ("decoy_gets_paths",
      if p.decoyGets then (Text.nonBlank p.decoyGetsPaths).map .str else none),
    ("pin_cert_pem", (Text.nonBlank p.pinCertPem).map .str),
    ("psk", (Text.nonBlank p.psk).map .str),
    ("ws_headers", (nonEmpty p.headerLines).map .strs),
    ("proto", p.chosenProto.map (.num ·.toNat)),
    ("stealth_profile", (Text.nonBlank p.stealthProfile).map .str),
    ("decoy_mode", (Text.nonBlank p.decoyMode).map .str),
    ("desync_mode", (Text.nonBlank p.desyncMode).map .str),
    ("tcp_fooling", (Text.nonBlank p.tcpFooling).map .str),
    ("tls_fragment", if p.tlsFragment then some (.bool true) else none),
    ("ws_parallel", some (.num (clampParallel p.wsParallel).toNat)),
    ("idle_decoy_secs", (positive64 p.idleDecoySecs).map (.num ·.toNat)),
    ("tls_stack", (p.chosenStack e).map .str),
    ("fingerprint", (Text.nonBlank p.fingerprint).map .str),
    ("reality_target", if p.reality then some (.str (Text.trim p.realityTarget)) else none),
    ("reality_public_key", if p.reality then some (.str (Text.trim p.realityPublicKey)) else none),
    ("reality_short_id", if p.reality then (Text.nonBlank p.realityShortId).map .str else none),
    ("ws_host", (Text.nonBlank p.wsHost).map .str),
    ("ws_origin", (Text.nonBlank p.wsOrigin).map .str),
    ("ws_user_agent", (Text.nonBlank p.wsUserAgent).map .str),
    ("ws_accept_language", (Text.nonBlank p.wsAcceptLanguage).map .str),
    ("split_bypass_domains", (nonEmpty (bypassDomainsForProfile e p)).map .strs)]

/-- `start_config_json`. -/
def startConfigJson (e : Surroundings) (p : TunnelProfile) : Except String Object := do
  let udpPad ← p.udpPad
  let udpBinary ← p.udpBinary
  let udpTimeout ← p.udpTimeout
  return .ofEntries (p.identity ++ p.settings e udpPad udpBinary udpTimeout)

end TunnelProfile

/-! ## 2. What is read back -/

variable {p : TunnelProfile}

theorem nodup_keys (e : Surroundings) (hman : p.useInvite = false) (a b c : Option Nat) :
    ((p.identity ++ p.settings e a b c).map Prod.fst).Nodup := by
  rw [TunnelProfile.identity, hman]
  simp [TunnelProfile.settings]

/-- What `StartJson` gets from a profile without an invite. -/
def TunnelProfile.asStart (e : Surroundings) (p : TunnelProfile) (socksBind : Text)
    (httpProxyBind : Option Text) (udpPad udpBinary udpTimeout : Option Nat) : StartJson where
  server := Text.trim p.server
  token := some p.token
  sni := Text.nonBlank p.sni
  socksBind := socksBind
  socksAuthUser := none
  socksAuthPassword := none
  splitBypassDomains := bypassDomainsForProfile e p
  httpProxy := httpProxyBind
  insecure := p.insecure
  maxPad := some p.maxPad
  junkFrames := some p.junkFrames
  earlyWsFrames := some p.earlyWsFrames
  psk := Text.nonBlank p.psk
  decoyMax := some p.decoyMax
  wsHost := Text.nonBlank p.wsHost
  wsOrigin := Text.nonBlank p.wsOrigin
  wsUserAgent := Text.nonBlank p.wsUserAgent
  wsAcceptLanguage := Text.nonBlank p.wsAcceptLanguage
  wsHeaders := p.headerLines
  maxWsBinary := some p.maxWsBinary
  wsPingSecs := some p.wsPingSecs
  fromInvite := none
  invitePassphrase := none
  tlsProfile := p.chosenTls
  wsPingJitterPercent := positive8 (min p.wsPingJitterPercent 50)
  wsBinarySendJitterMs := positive8 p.wsBinarySendJitterMs
  wsJitterMinMs := positive8 p.wsJitterMinMs
  wsJitterMaxMs := positive8 p.wsJitterMaxMs
  udpMaxPad := udpPad.map .ofNat
  udpMaxWsBinary := udpBinary.map .ofNat
  udpMuxReplyTimeoutSecs := udpTimeout.map .ofNat
  pinCertPem := Text.nonBlank p.pinCertPem
  wsPath := Text.nonBlank p.wsPath
  useTcpMux := some p.useTcpMux
  padMode := Text.nonBlank p.padMode
  dummyIntervalSecs := positive64 p.dummyIntervalSecs
  decoyGets := if p.decoyGets then some true else none
  decoyGetsIntervalSecs := if p.decoyGets then some (max p.decoyGetsIntervalSecs 1) else none
  decoyGetsPaths := if p.decoyGets then Text.nonBlank p.decoyGetsPaths else none
  proto := p.chosenProto
  protoDomain := some ((Text.nonBlank p.protoDomain).getD "default".toList)
  decoyMode := Text.nonBlank p.decoyMode
  desyncMode := Text.nonBlank p.desyncMode
  tcpFooling := Text.nonBlank p.tcpFooling
  tlsFragment := p.tlsFragment
  wsParallel := some (clampParallel p.wsParallel)
  muxWindowMib := defaultMuxWindow
  idleDecoySecs := positive64 p.idleDecoySecs
  stealthProfile := Text.nonBlank p.stealthProfile
  tlsStack := p.chosenStack e
  fingerprint := Text.nonBlank p.fingerprint
  logLevel := none
  logFormat := none

theorem fieldOf_udpPad (k : String) {n : Option Nat} (h : ∀ v ∈ n, v ≤ 255) :
    fieldOf toUInt8 k (n.map .num) = .ok (n.map .ofNat) := by
  cases n with
  | none => rfl
  | some v =>
    have hv : v < 2 ^ 8 := Nat.lt_succ_of_le (h v rfl)
    exact fieldOf_num k (if_pos hv)

theorem fieldOf_udp64 (k : String) {n : Option Nat} (h : ∀ v ∈ n, v ≤ u64Max) :
    fieldOf toUInt64 k (n.map .num) = .ok (n.map .ofNat) := by
  cases n with
  | none => rfl
  | some v =>
    have hv : v < 2 ^ 64 := Nat.lt_of_le_pred (Nat.two_pow_pos 64) (h v rfl)
    exact fieldOf_num k (if_pos hv)

theorem getD_nonEmpty (xs : List Text) : (nonEmpty xs).getD [] = xs := by
  unfold nonEmpty
  split
  · rename_i h
    exact (List.isEmpty_iff.mp h).symm
  · rfl

/-- The entries that are written without an invite. -/
theorem identity_of_manual (hman : p.useInvite = false) :
    p.identity = [("from_invite", none), ("invite_passphrase", none),
      ("server", some (.str (Text.trim p.server))), ("token", some (.str p.token)),
      ("tls_profile", p.chosenTls.map .str),
      ("proto_domain", some (.str ((Text.nonBlank p.protoDomain).getD "default".toList)))] := by
  rw [TunnelProfile.identity, hman]
  rfl

/-- **Every key of the reader has what the writer put there.** -/
theorem asStart_readFrom (e : Surroundings) (hman : p.useInvite = false) (socksBind : Text)
    (httpProxyBind : Option Text) {a b c : Option Nat} (ha : ∀ v ∈ a, v ≤ 255)
    (hb : ∀ v ∈ b, v ≤ u64Max) (hc : ∀ v ∈ c, v ≤ u64Max) {o : Object} (ho : ∀ k, o.get k =
      if k = "http_proxy" then httpProxyBind.map .str
      else if k = "socks_bind" then some (.str socksBind)
      else entry (p.identity ++ p.settings e a b c) k) :
    (p.asStart e socksBind httpProxyBind a b c).ReadFrom o := by
  have hpad := fieldOf_udpPad "udp_max_pad" ha
  have hbin := fieldOf_udp64 "udp_max_ws_binary" hb
  have hto := fieldOf_udp64 "udp_mux_reply_timeout_secs" hc
  simp only [identity_of_manual hman, TunnelProfile.settings, List.cons_append, List.nil_append]
    at ho
  have hgets : fieldOf toBool "decoy_gets"
      (if p.decoyGets = true then some (.bool true) else none) =
      .ok (if p.decoyGets = true then some true else none) := by
    cases p.decoyGets <;> rfl
  have hinterval : fieldOf toUInt64 "decoy_gets_interval_secs"
      (if p.decoyGets = true then some (.num (max p.decoyGetsIntervalSecs 1).toNat) else none) =
      .ok (if p.decoyGets = true then some (max p.decoyGetsIntervalSecs 1) else none) := by
    cases p.decoyGets <;> simp
  have hpaths : fieldOf toText "decoy_gets_paths"
      (if p.decoyGets = true then (Text.nonBlank p.decoyGetsPaths).map .str else none) =
      .ok (if p.decoyGets = true then Text.nonBlank p.decoyGetsPaths else none) := by
    cases p.decoyGets <;> simp
  have hfragment : fieldOrOf toBool "tls_fragment" false
      (if p.tlsFragment = true then some (.bool true) else none) = .ok p.tlsFragment := by
    cases p.tlsFragment <;> rfl
  constructor <;>
    simp [Object.field, Object.fieldOr, ho, entry, TunnelProfile.asStart, getD_nonEmpty, hpad, hbin,
      hto, hgets, hinterval, hpaths, hfragment]

theorem numberIn_eq_ok {top : Nat} {error : String} {s : Text} {n : Option Nat}
    (h : numberIn top error s = .ok n) :
    (∀ v ∈ n, v ≤ top) ∧
      (∀ t ∈ Text.nonBlank s, ∃ v, Text.parseUnsigned top t = .ok v ∧ n = some v) := by
  unfold numberIn at h
  cases hs : Text.nonBlank s with
  | none =>
    rw [hs] at h
    cases h
    exact ⟨nofun, nofun⟩
  | some t =>
    simp only [hs, map_eq_ok, mapError_eq_ok] at h
    obtain ⟨v, hv, rfl⟩ := h
    refine ⟨fun w hw => ?_, fun t' ht' => ?_⟩
    · cases hw
      exact Text.parseUnsigned_le hv
    · cases ht'
      exact ⟨v, hv, rfl⟩

/-- **From the profile to the options**: the client starts with `asStart`, and the bypass list is
that of the profile. -/
theorem start_of_profile {e : Surroundings} {o : Object} (hman : p.useInvite = false)
    (ho : p.startConfigJson e = .ok o) :
    ∃ a b t, p.udpPad = .ok a ∧ p.udpBinary = .ok b ∧ p.udpTimeout = .ok t ∧
      ∀ (c : Codecs) (socksBind : Text) (httpProxyBind : Option Text),
        localClientOptionsFromJsonWithBinds c o socksBind httpProxyBind =
          (some (cleanedDomains (bypassDomainsForProfile e p)),
            startJsonIntoOptions c (p.asStart e socksBind httpProxyBind a b t)) := by
  simp only [TunnelProfile.startConfigJson, bind_eq_ok] at ho
  obtain ⟨a, ha, b, hb, t, ht, ho⟩ := ho
  cases ho
  have hb' : ∀ v ∈ b, v ≤ u64Max := by
    obtain ⟨b', hb', rfl⟩ := map_eq_ok.mp hb
    intro v hv
    exact (numberIn_eq_ok hb').1 v (Option.mem_filter_iff.mp hv).1
  refine ⟨a, b, t, ha, hb, ht, fun c socksBind httpProxyBind => ?_⟩
  have hread := StartJson.read_of_readFrom <| asStart_readFrom e hman socksBind httpProxyBind
    (numberIn_eq_ok ha).1 hb' (numberIn_eq_ok ht).1 fun k => by
      rw [get_withBinds, get_ofEntries (nodup_keys e hman a b t)]
  rw [localClientOptionsFromJsonWithBinds, localClientOptionsFromJson, hread]
  rfl

/-! ## 3. Every setting, in the options -/

/-- The paths of the decoy requests. -/
def TunnelProfile.decoyPaths (p : TunnelProfile) : List Text :=
  ((Text.nonBlank p.decoyGetsPaths).map splitPaths).getD []

/-- **Every setting that is made explicitly has its value in the options**, trimmed and clamped as
the code says.  A setting is not made if it is blank or zero, a switch that is off, the TLS profile
`default` (or any TLS profile, if there is a fingerprint), or the interval that the app starts
with. -/
structure Kept (c : Codecs) (e : Surroundings) (p : TunnelProfile) (installed : Option (List Text))
    (opts : LocalClientOptions) : Prop where
  server : parseHostPort p.server = .ok (opts.serverHost, opts.serverPort)
  sni : ∀ t ∈ Text.nonBlank p.sni, opts.sni = t
  token : opts.token = Text.trim p.token
  psk : ∀ t ∈ Text.nonBlank p.psk, opts.psk = some t
  insecure : opts.insecureTls = p.insecure
  maxPad : opts.maxPad = p.maxPad
  decoyMax : opts.decoyMax = p.decoyMax
  maxWsBinary : opts.maxWsBinary = p.maxWsBinary
  junkFrames : opts.junkFrames = p.junkFrames
  earlyWsFrames : opts.earlyWsFrames = p.earlyWsFrames
  wsPingSecs : opts.wsPingSecs = p.wsPingSecs
  wsHeaders : p.headerLines.mapM (parseWsHeader c.quote) = .ok opts.wsExtraHeaders
  useTcpMux : opts.useTcpMux = p.useTcpMux
  wsPath : ∀ t ∈ Text.nonBlank p.wsPath, opts.wsPath = normalizeWsPath t
  padMode : ∀ t ∈ Text.nonBlank p.padMode, padModeFromStr c.quote t = .ok opts.padMode
  wsPingJitterPercent : opts.wsPingJitterPercent = min p.wsPingJitterPercent 50
  wsBinarySendJitterMs : opts.wsBinarySendJitterMs = p.wsBinarySendJitterMs
  wsJitterMinMs : 0 < p.wsJitterMinMs → opts.wsJitterMinMs = p.wsJitterMinMs
  wsJitterMaxMs : 0 < p.wsJitterMaxMs → opts.wsJitterMaxMs = p.wsJitterMaxMs
  udpMaxPad : ∀ t ∈ Text.nonBlank p.udpMaxPad,
    ∃ v, Text.parseUnsigned 255 t = .ok v ∧ opts.udpMaxPad = some (.ofNat v)
  udpMaxWsBinary : ∀ t ∈ Text.nonBlank p.udpMaxWsBinary,
    ∃ v, Text.parseUnsigned u64Max t = .ok v ∧ (0 < v → opts.udpMaxWsBinary = some (.ofNat v))
  udpMuxReplyTimeoutSecs : ∀ t ∈ Text.nonBlank p.udpMuxReplyTimeoutSecs,
    ∃ v, Text.parseUnsigned u64Max t = .ok v ∧ opts.udpMuxReplyTimeoutSecs = .ofNat v
  dummyIntervalSecs : 0 < p.dummyIntervalSecs → opts.dummyIntervalSecs = p.dummyIntervalSecs
  decoyGets : p.decoyGets = true → opts.decoyGets = true
  decoyGetsIntervalSecs : p.decoyGetsIntervalSecs ≠ defaultDecoyInterval →
    opts.decoyGetsIntervalSecs = max p.decoyGetsIntervalSecs 1
  decoyGetsPaths : p.decoyPaths ≠ [] → opts.decoyGetsPaths = p.decoyPaths
  pinCertPem : ∀ t ∈ Text.nonBlank p.pinCertPem, opts.pinnedCertsPem = some (Text.toUtf8 t)
  splitTunnel : installed = some (cleanedDomains (bypassDomainsForProfile e p))
  proto : opts.proto = p.proto
  protoDomain : ∀ t ∈ Text.nonBlank p.protoDomain, opts.protoDomain = t
  stealthProfile : ∀ t ∈ Text.nonBlank p.stealthProfile,
    ∃ v, StealthProfile.fromStr c.quote t = .ok v ∧ opts.stealthProfile = some v
  decoyMode : ∀ t ∈ Text.nonBlank p.decoyMode, DecoyMode.fromStr c.quote t = .ok opts.decoyMode
  desyncMode : ∀ t ∈ Text.nonBlank p.desyncMode, DesyncMode.fromStr c.quote t = .ok opts.desyncMode
  tcpFooling : ∀ t ∈ Text.nonBlank p.tcpFooling, TcpFooling.fromStr c.quote t = .ok opts.tcpFooling
  tlsFragment : opts.tlsFragment = p.tlsFragment
  wsParallel : opts.wsParallel = clampParallel p.wsParallel
  idleDecoySecs : 0 < p.idleDecoySecs → opts.idleDecoySecs = p.idleDecoySecs
  tlsStack : TlsStack.fromStr c.quote (e.toLowercase (Text.trim p.tlsStack)) = .ok opts.tlsStack
  fingerprint : ∀ t ∈ Text.nonBlank p.fingerprint,
    TlsClientProfile.fromStr c.quote t = .ok opts.tlsProfile
  tlsProfile : Text.nonBlank p.fingerprint = none → ∀ t ∈ Text.nonBlank p.tlsProfile,
    t ≠ "default".toList → TlsClientProfile.fromStr c.quote t = .ok opts.tlsProfile
  wsHost : ∀ t ∈ Text.nonBlank p.wsHost, opts.wsHost = some t
  wsOrigin : ∀ t ∈ Text.nonBlank p.wsOrigin, opts.wsOrigin = some t
  wsUserAgent : ∀ t ∈ Text.nonBlank p.wsUserAgent, opts.wsUserAgent = some t
  wsAcceptLanguage : ∀ t ∈ Text.nonBlank p.wsAcceptLanguage, opts.wsAcceptLanguage = some t
  realityTarget : ∀ t ∈ Text.nonBlank p.realityTarget, opts.realityTarget = some t
  realityPublicKey : ∀ t ∈ Text.nonBlank p.realityPublicKey,
    ∃ key, realityPublicKeyParsed c (some t) = .ok (some key) ∧ opts.realityPublicKey = some key
  realityShortId : ∀ t ∈ Text.nonBlank p.realityShortId,
    ∃ id, realityShortIdParsed c (some t) = .ok (some id) ∧ opts.realityShortId = some id

/-- The profile sets none of what gets lost on the way: the settings of REALITY, and those of the
decoy requests where it does not switch these on. -/
def TunnelProfile.Carried (p : TunnelProfile) : Prop :=
  Text.nonBlank p.realityTarget = none ∧ Text.nonBlank p.realityPublicKey = none ∧
  Text.nonBlank p.realityShortId = none ∧
  (p.decoyGets = true ∨ p.decoyGetsIntervalSecs = defaultDecoyInterval ∧ p.decoyPaths = [])

@[simp] theorem jsonOrInviteStr_nonBlank (s : Text) :
    jsonOrInviteStr (Text.nonBlank s) none = Text.nonBlank s := by
  simp [jsonOrInviteStr]

theorem pickMode_nonBlank {α : Type} {fromStr : Text → Except String α} {what : String} {s : Text}
    {d m : α} (h : pickMode fromStr what (Text.nonBlank s) none d = .ok m) :
    ∀ t ∈ Text.nonBlank s, fromStr t = .ok m := by
  intro t ht
  rw [pickMode, Text.nonBlank_bind_nonBlank, ht] at h
  exact context_eq_ok.mp h

theorem getD_positive8 (n : UInt8) : (positive8 n).getD 0 = n := by
  unfold positive8
  split
  · rfl
  · rename_i h
    have h0 : n.toNat = (0 : UInt8).toNat := Nat.eq_zero_of_not_pos h
    exact (UInt8.toNat_inj.mp h0).symm

theorem parseHostPort_trim (s : Text) : parseHostPort (Text.trim s) = parseHostPort s := by
  rw [parseHostPort, Text.trim_trim, parseHostPort]

theorem chosenProto_eq (h : p.chosenProto.getD 3 = 3) : p.proto = 3 := by
  unfold TunnelProfile.chosenProto at h
  have hmax : (if p.proto ≤ 1 then 1 else p.proto) = 3 := by
    split at h
    · assumption
    · exact h
  split at hmax
  · exact absurd hmax (by decide)
  · exact hmax

/-- The timing that a profile sets is not that of a preset. -/
theorem jitter_of_profile {j : StartJson} (pr : Option StealthPreset) {m x : UInt8}
    (hm : j.wsJitterMinMs = positive8 m) (hx : j.wsJitterMaxMs = positive8 x) :
    (0 < m → (resolveJitter j none pr).1 = m) ∧ (0 < x → (resolveJitter j none pr).2 = x) := by
  have hset : 0 < m ∨ 0 < x → resolveJitter j none pr = (m, x) := by
    intro h
    have hexplicit : (j.wsJitterMinMs.isSome || j.wsJitterMaxMs.isSome ||
        j.wsBinarySendJitterMs.isSome) = true := by
      rw [hm, hx]
      rcases h with h | h <;> simp [positive8, h]
    rw [resolveJitter, hexplicit, if_pos rfl, applyPresetWsJitter, hm, hx]
    exact Prod.ext (getD_positive8 m) (getD_positive8 x)
  exact ⟨fun h => by rw [hset (.inl h)], fun h => by rw [hset (.inr h)]⟩

theorem tlsStack_of_profile {quote : Text → String} {e : Surroundings} {j : StartJson}
    {m : TlsStack} (hj : j.tlsStack = p.chosenStack e) (h : resolveTlsStack quote j none = .ok m) :
    TlsStack.fromStr quote (e.toLowercase (Text.trim p.tlsStack)) = .ok m := by
  unfold resolveTlsStack at h
  rw [hj, TunnelProfile.chosenStack] at h
  generalize e.toLowercase (Text.trim p.tlsStack) = t at h ⊢
  by_cases hdefault : (t.isEmpty || t == "rustls".toList) = true
  · rw [if_pos hdefault] at h
    cases h
    rcases Bool.or_eq_true _ _ ▸ hdefault with hempty | hrustls
    · rw [List.isEmpty_iff.mp hempty]
      rfl
    · rw [beq_iff_eq.mp hrustls]
      rfl
  · rw [if_neg hdefault, Option.bind_some] at h
    cases ht : Text.nonBlank t with
    | none =>
      rw [ht] at h
      cases h
      rw [← TlsStack.fromStr_trim, Text.nonBlank_eq_none_iff.mp ht]
      rfl
    | some u =>
      rw [ht] at h
      obtain ⟨rfl, -⟩ := Text.nonBlank_eq_some_iff.mp ht
      rwa [← TlsStack.fromStr_trim]

theorem tlsProfile_of_profile {quote : Text → String} {fingerprint : Text} {tls : Option Text}
    {stealth : Option StealthProfile} {m : TlsClientProfile}
    (h : resolveTlsClientProfile quote ((Text.nonBlank fingerprint).bind Text.nonBlank)
      (tls.bind Text.nonBlank) stealth none = .ok m) :
    (∀ t ∈ Text.nonBlank fingerprint, TlsClientProfile.fromStr quote t = .ok m) ∧
    (Text.nonBlank fingerprint = none → ∀ t ∈ tls, Text.nonBlank t = some t →
      TlsClientProfile.fromStr quote t = .ok m) := by
  unfold resolveTlsClientProfile at h
  rw [Text.nonBlank_bind_nonBlank, Text.nonBlank_bind_nonBlank] at h
  refine ⟨fun t ht => ?_, fun hnone t ht hblank => ?_⟩
  · rw [ht] at h
    exact h
  · rw [hnone, ht, Option.bind_some, hblank, Option.bind_some, hblank] at h
    exact h

/-- What is left of a setting that a profile chose is the setting. -/
theorem nonBlank_of_mem {s t : Text} (h : t ∈ Text.nonBlank s) : Text.nonBlank t = some t := by
  have hbind := Text.nonBlank_bind_nonBlank s
  rwa [h] at hbind

/-- What reaches the client of the decoy requests. -/
theorem decoys_of_merged {c : Codecs} {e : Surroundings} {socksBind : Text}
    {httpProxyBind : Option Text} {a b t : Option Nat} {opts : LocalClientOptions}
    (h : Merged c (p.asStart e socksBind httpProxyBind a b t) none opts) :
    opts.decoyGetsIntervalSecs =
        (if p.decoyGets then max p.decoyGetsIntervalSecs 1 else defaultDecoyInterval) ∧
      opts.decoyGetsPaths = if p.decoyGets then p.decoyPaths else [] := by
  rw [h.decoyGetsIntervalSecs, h.decoyGetsPaths]
  cases hgets : p.decoyGets with
  | false => simp [TunnelProfile.asStart, hgets, orInvite, resolveDecoyPaths]
  | true =>
    refine ⟨by simp [TunnelProfile.asStart, hgets, orInvite], ?_⟩
    simp only [TunnelProfile.asStart, hgets, resolveDecoyPaths, if_true, TunnelProfile.decoyPaths]
    split
    · rename_i hempty
      exact (List.isEmpty_iff.mp hempty).symm
    · rfl

section

variable {c : Codecs} {e : Surroundings} {p : TunnelProfile} {socksBind : Text}
  {httpProxyBind : Option Text} {a b t : Option Nat} {opts : LocalClientOptions}

theorem server_of_merged (h : Merged c (p.asStart e socksBind httpProxyBind a b t) none opts) :
    parseHostPort p.server = .ok (opts.serverHost, opts.serverPort) := by
  have hs := h.server
  simp only [resolveServer] at hs
  split at hs
  · cases hs
  · rw [context_eq_ok] at hs
    rwa [TunnelProfile.asStart, parseHostPort_trim, parseHostPort_trim] at hs

theorem token_of_merged (h : Merged c (p.asStart e socksBind httpProxyBind a b t) none opts) :
    opts.token = Text.trim p.token := by
  have ht : resolveToken (p.asStart e socksBind httpProxyBind a b t) none = .ok opts.token :=
    h.token
  rw [resolveToken, show (p.asStart e socksBind httpProxyBind a b t).token = some p.token from rfl,
    Option.bind_some] at ht
  split at ht
  · rename_i hsome
    cases ht
    exact (Text.nonBlank_eq_some_iff.mp hsome).1.symm
  · cases ht

theorem sni_of_merged (h : Merged c (p.asStart e socksBind httpProxyBind a b t) none opts) :
    ∀ t ∈ Text.nonBlank p.sni, opts.sni = t := by
  intro t' ht'
  have hnone : opts.realityTarget = none := h.realityTarget
  have hsni : opts.sni = (jsonOrInviteStr (Text.nonBlank p.sni) none).getD opts.serverHost := by
    rw [h.sni, hnone]
    rfl
  rw [hsni, jsonOrInviteStr_nonBlank, ht']
  rfl

theorem headers_of_merged (h : Merged c (p.asStart e socksBind httpProxyBind a b t) none opts) :
    p.headerLines.mapM (parseWsHeader c.quote) = .ok opts.wsExtraHeaders := by
  obtain ⟨ih, jh, hih, hjh, heq⟩ := h.wsExtraHeaders
  cases hih
  rw [heq]
  exact hjh

theorem padMode_of_merged (h : Merged c (p.asStart e socksBind httpProxyBind a b t) none opts) :
    ∀ t ∈ Text.nonBlank p.padMode, padModeFromStr c.quote t = .ok opts.padMode := by
  intro t' ht'
  have hpad := h.padMode
  unfold resolvePadMode at hpad
  rw [show (p.asStart e socksBind httpProxyBind a b t).padMode = Text.nonBlank p.padMode from rfl,
    Text.nonBlank_bind_nonBlank, ht'] at hpad
  exact context_eq_ok.mp hpad

theorem udpBinary_of_merged (hb : p.udpBinary = .ok b)
    (h : Merged c (p.asStart e socksBind httpProxyBind a b t) none opts) :
    ∀ t ∈ Text.nonBlank p.udpMaxWsBinary,
      ∃ v, Text.parseUnsigned u64Max t = .ok v ∧
        (0 < v → opts.udpMaxWsBinary = some (.ofNat v)) := by
  intro t' ht'
  obtain ⟨n, hn, rfl⟩ := map_eq_ok.mp hb
  obtain ⟨v, hv, rfl⟩ := (numberIn_eq_ok hn).2 t' ht'
  refine ⟨v, hv, fun hpos => ?_⟩
  have hkept : (some v).filter (fun v => decide (0 < v)) = some v := by simp [hpos]
  rw [h.udpMaxWsBinary, TunnelProfile.asStart, hkept]
  rfl

/-- **All other settings arrive.** -/
theorem kept_of_merged {installed : Option (List Text)} (ha : p.udpPad = .ok a)
    (hb : p.udpBinary = .ok b) (ht : p.udpTimeout = .ok t)
    (hinst : installed = some (cleanedDomains (bypassDomainsForProfile e p)))
    (h : Merged c (p.asStart e socksBind httpProxyBind a b t) none opts) (hp : p.Carried) :
    Kept c e p installed opts := by
  obtain ⟨htarget, hkey, hshort, hdecoy⟩ := hp
  obtain ⟨hinterval, hpaths⟩ := decoys_of_merged h
  have hjitter := jitter_of_profile (j := p.asStart e socksBind httpProxyBind a b t)
    (opts.stealthProfile.map preset) rfl rfl
  have htext : ∀ {s : Text} {o : Option Text}, o = jsonOrInviteStr (Text.nonBlank s) none →
      ∀ t ∈ Text.nonBlank s, o = some t := by
    intro s o ho t' ht'
    rw [ho, jsonOrInviteStr_nonBlank, ht']
  obtain ⟨embedded, hemb, htls⟩ := h.tlsProfile
  cases hemb
  constructor
  case server => exact server_of_merged h
  case token => exact token_of_merged h
  case sni => exact sni_of_merged h
  case psk =>
    intro t' ht'
    rw [← Except.ok.inj h.psk]
    exact ht'
  case insecure => rw [h.insecureTls]; exact Bool.or_false _
  case maxPad => exact h.maxPad
  case decoyMax => exact h.decoyMax
  case maxWsBinary => exact h.maxWsBinary
  case junkFrames => exact h.junkFrames
  case earlyWsFrames => exact h.earlyWsFrames
  case wsPingSecs => exact h.wsPingSecs
  case useTcpMux => exact h.useTcpMux
  case tlsFragment => exact h.tlsFragment
  case wsHeaders => exact headers_of_merged h
  case wsPath =>
    intro t' ht'
    rw [h.wsPath, TunnelProfile.asStart, ht']
    rfl
  case padMode => exact padMode_of_merged h
  case wsPingJitterPercent => exact h.wsPingJitterPercent.trans (getD_positive8 _)
  case wsBinarySendJitterMs => exact h.wsBinarySendJitterMs.trans (getD_positive8 _)
  case wsJitterMinMs => exact fun hpos => (congrArg Prod.fst h.wsJitter).trans (hjitter.1 hpos)
  case wsJitterMaxMs => exact fun hpos => (congrArg Prod.snd h.wsJitter).trans (hjitter.2 hpos)
  case udpMaxPad =>
    intro t' ht'
    obtain ⟨v, hv, rfl⟩ := (numberIn_eq_ok ha).2 t' ht'
    exact ⟨v, hv, h.udpMaxPad⟩
  case udpMaxWsBinary => exact udpBinary_of_merged hb h
  case udpMuxReplyTimeoutSecs =>
    intro t' ht'
    obtain ⟨v, hv, rfl⟩ := (numberIn_eq_ok ht).2 t' ht'
    exact ⟨v, hv, h.udpMuxReplyTimeoutSecs⟩
  case dummyIntervalSecs =>
    intro hpos
    have hj : (p.asStart e socksBind httpProxyBind a b t).dummyIntervalSecs = some _ := if_pos hpos
    rw [h.dummyIntervalSecs, hj]
    rfl
  case decoyGets =>
    intro hgets
    have hj : (p.asStart e socksBind httpProxyBind a b t).decoyGets = some true := if_pos hgets
    rw [h.decoyGets]
    unfold resolveDecoyGets
    rw [hj]
  case decoyGetsIntervalSecs =>
    intro hset
    have hgets : p.decoyGets = true := hdecoy.resolve_right fun hd => hset hd.1
    rw [hinterval, if_pos hgets]
  case decoyGetsPaths =>
    intro hset
    have hgets : p.decoyGets = true := hdecoy.resolve_right fun hd => hset hd.2
    rw [hpaths, if_pos hgets]
  case pinCertPem =>
    intro t' ht'
    rw [h.pinnedCertsPem]
    exact congrArg (Option.map Text.toUtf8) (htext rfl t' ht')
  case splitTunnel => exact hinst
  case proto =>
    have hthree : p.chosenProto.getD 3 = 3 := h.proto.1.symm.trans h.proto.2
    rw [h.proto.2, chosenProto_eq hthree]
  case protoDomain =>
    intro t' ht'
    have hj : (p.asStart e socksBind httpProxyBind a b t).protoDomain = some t' :=
      congrArg some (by rw [ht']; rfl)
    rw [h.protoDomain, hj, jsonOrInviteStr, Option.bind_some, nonBlank_of_mem ht']
    rfl
  case stealthProfile =>
    intro t' ht'
    obtain ⟨v, hv, heq⟩ := map_eq_ok.mp (pickMode_nonBlank h.stealthProfile t' ht')
    exact ⟨v, hv, heq.symm⟩
  case decoyMode => exact pickMode_nonBlank h.decoyMode
  case desyncMode => exact pickMode_nonBlank h.desyncMode
  case tcpFooling => exact pickMode_nonBlank h.tcpFooling
  case wsParallel => exact h.wsParallel.trans (clampParallel_clampParallel _)
  case idleDecoySecs =>
    intro hpos
    have hj : (p.asStart e socksBind httpProxyBind a b t).idleDecoySecs = some _ := if_pos hpos
    rw [h.idleDecoySecs, hj]
    rfl
  case tlsStack => exact tlsStack_of_profile rfl h.tlsStack
  case fingerprint => exact (tlsProfile_of_profile htls).1
  case tlsProfile =>
    intro hnone t' ht' hset
    refine (tlsProfile_of_profile htls).2 hnone t' ?_ (nonBlank_of_mem ht')
    show p.chosenTls = some t'
    rw [TunnelProfile.chosenTls, ht', Option.filter_some, if_pos (bne_iff_ne.mpr hset)]
  case wsHost => exact htext h.wsHost
  case wsOrigin => exact htext h.wsOrigin
  case wsUserAgent => exact htext h.wsUserAgent
  case wsAcceptLanguage => exact htext h.wsAcceptLanguage
  case realityTarget => rw [htarget]; exact nofun
  case realityPublicKey => rw [hkey]; exact nofun
  case realityShortId => rw [hshort]; exact nofun

/-- What is not carried is lost. -/
theorem carried_of_kept {installed : Option (List Text)}
    (h : Merged c (p.asStart e socksBind httpProxyBind a b t) none opts)
    (hK : Kept c e p installed opts) : p.Carried := by
  have hkey : opts.realityPublicKey = none := (Except.ok.inj h.realityPublicKey).symm
  have hshort : opts.realityShortId = none := (Except.ok.inj h.realityShortId).symm
  obtain ⟨hinterval, hpaths⟩ := decoys_of_merged h
  refine ⟨?_, ?_, ?_, ?_⟩
  · refine Option.eq_none_iff_forall_not_mem.mpr fun t' ht' => ?_
    have hset := hK.realityTarget t' ht'
    rw [h.realityTarget] at hset
    cases hset
  · refine Option.eq_none_iff_forall_not_mem.mpr fun t' ht' => ?_
    obtain ⟨key, -, hset⟩ := hK.realityPublicKey t' ht'
    rw [hkey] at hset
    cases hset
  · refine Option.eq_none_iff_forall_not_mem.mpr fun t' ht' => ?_
    obtain ⟨id, -, hset⟩ := hK.realityShortId t' ht'
    rw [hshort] at hset
    cases hset
  · cases hgets : p.decoyGets with
    | true => exact .inl rfl
    | false =>
      rw [hgets] at hinterval hpaths
      refine .inr ⟨by_contra fun hset => ?_, by_contra fun hset => ?_⟩
      · have hkept := hK.decoyGetsIntervalSecs hset
        rw [hinterval, if_neg Bool.false_ne_true] at hkept
        have hmax : defaultDecoyInterval =
          if p.decoyGetsIntervalSecs ≤ 1 then 1 else p.decoyGetsIntervalSecs := hkept
        split at hmax
        · exact absurd hmax (by decide)
        · exact hset hmax.symm
      · have hkept := hK.decoyGetsPaths hset
        rw [hpaths, if_neg Bool.false_ne_true] at hkept
        exact hset hkept.symm

end

/-- **When a profile reaches the client unchanged.**  For every profile that is used without an
invite, whose object is written and accepted by the client: every setting that it makes explicitly
has its value in the options if and only if it sets nothing of REALITY, and sets interval and paths
of the decoy requests only together with their switch. -/
theorem profile_reaches_client_iff (c : Codecs) (e : Surroundings) (p : TunnelProfile) (o : Object)
    (socksBind : Text) (httpProxyBind : Option Text) (installed : Option (List Text))
    (opts : LocalClientOptions) (hman : p.useInvite = false) (ho : p.startConfigJson e = .ok o)
    (hopts : localClientOptionsFromJsonWithBinds c o socksBind httpProxyBind =
      (installed, .ok opts)) :
    Kept c e p installed opts ↔ p.Carried := by
  obtain ⟨a, b, t, ha, hb, ht, hstart⟩ := start_of_profile hman ho
  obtain ⟨hinst, hok⟩ := Prod.mk.inj ((hstart c socksBind httpProxyBind).symm.trans hopts)
  obtain ⟨inv, hinv, hmerged⟩ := merged_of_ok hok
  cases hinv
  exact ⟨carried_of_kept hmerged, kept_of_merged ha hb ht hinst.symm hmerged⟩

/-! ### Profiles -/

def plainProfile : TunnelProfile where
  server := "vpn.example:443".toList
  token := "alice-secret".toList
  psk := "0123456789abcdef".toList
  sni := []
  insecure := false
  maxPad := 64
  decoyMax := 0
  maxWsBinary := 262144
  tlsProfile := "default".toList
  fromInvite := []
  invitePassphrase := []
  junkFrames := 0
  earlyWsFrames := 0
  wsPingSecs := 25
  wsHeaders := []
  useTcpMux := true
  wsPath := []
  padMode := []
  wsPingJitterPercent := 0
  wsBinarySendJitterMs := 0
  udpMaxPad := []
  udpMaxWsBinary := []
  udpMuxReplyTimeoutSecs := []
  dummyIntervalSecs := 0
  decoyGets := false
  decoyGetsIntervalSecs := 30
  decoyGetsPaths := []
  pinCertPem := []
  splitTunnelEnabled := false
  splitTunnelPresetIds := []
  proto := 3
  protoDomain := []
  stealthProfile := []
  decoyMode := []
  desyncMode := []
  tcpFooling := []
  tlsFragment := false
  wsParallel := 1
  idleDecoySecs := 0
  tlsStack := "rustls".toList
  fingerprint := []
  realityTarget := []
  realityPublicKey := []
  realityShortId := []
  wsHost := []
  wsOrigin := []
  wsUserAgent := []
  wsAcceptLanguage := []
  wsJitterMinMs := 0
  wsJitterMaxMs := 0

/-- The same with a REALITY front. -/
def realityProfile : TunnelProfile :=
  { plainProfile with
    realityTarget := "vk.com:443".toList
    realityPublicKey := "AAAAAAAAAAAAAAAAAAAAAAAAAAAAAAAAAAAAAAAAAAA=".toList }

/-- The same with a stealth profile that switches the decoy requests on. -/
def balancedProfile : TunnelProfile :=
  { plainProfile with
    stealthProfile := "balanced".toList
    decoyGetsIntervalSecs := 300
    decoyGetsPaths := "/a,/b".toList }

def plainCodecs : Codecs where
  decodeInvite := fun _ _ => .error "invite"
  decodeBase64 := fun _ => .ok (List.replicate 32 0)
  decodeHex := fun _ => .ok (List.replicate 8 0)
  quote := String.ofList

def plainSurroundings : Surroundings := ⟨Text.toAsciiLowercase, fun _ => none⟩

/-- A profile whose numbers in text fields are blank, and which the client accepts. -/
theorem accepted_of_blank (hman : p.useInvite = false)
    (hblank : p.udpPad = .ok none ∧ p.udpBinary = .ok none ∧ p.udpTimeout = .ok none)
    (hoff : p.splitTunnelEnabled = false) {opts : LocalClientOptions}
    (hok : startJsonIntoOptions plainCodecs
      (p.asStart plainSurroundings [] none none none none) = .ok opts) :
    ∃ o, p.startConfigJson plainSurroundings = .ok o ∧
      (∀ k, o.get k = entry (p.identity ++ p.settings plainSurroundings none none none) k) ∧
      localClientOptionsFromJsonWithBinds plainCodecs o [] none = (some [], .ok opts) := by
  obtain ⟨ha, hb, ht⟩ := hblank
  have ho : p.startConfigJson plainSurroundings =
      .ok (.ofEntries (p.identity ++ p.settings plainSurroundings none none none)) := by
    rw [TunnelProfile.startConfigJson, ha, hb, ht]
    rfl
  obtain ⟨a, b, t, ha', hb', ht', hstart⟩ := start_of_profile hman ho
  cases ha.symm.trans ha'
  cases hb.symm.trans hb'
  cases ht.symm.trans ht'
  refine ⟨_, ho, get_ofEntries (nodup_keys plainSurroundings hman none none none), ?_⟩
  rw [hstart, hok, bypassDomainsForProfile, hoff]
  rfl

/-- **Settings that get lost.**  The first profile sets target and key of REALITY: they are written,
and the client starts without them.  The second one sets interval and paths of the decoy requests,
which its stealth profile switches on: the client sends them, with the default interval and no
paths. -/
theorem profile_loses_settings :
    (∃ o opts, realityProfile.useInvite = false ∧
      realityProfile.startConfigJson plainSurroundings = .ok o ∧
      o.get "reality_target" = some (.str "vk.com:443".toList) ∧
      localClientOptionsFromJsonWithBinds plainCodecs o [] none = (some [], .ok opts) ∧
      opts.realityTarget = none ∧ opts.realityPublicKey = none) ∧
    (∃ o opts, balancedProfile.useInvite = false ∧
      balancedProfile.startConfigJson plainSurroundings = .ok o ∧
      localClientOptionsFromJsonWithBinds plainCodecs o [] none = (some [], .ok opts) ∧
      opts.decoyGets = true ∧ opts.decoyGetsIntervalSecs = 30 ∧ opts.decoyGetsPaths = []) := by
  constructor
  · have hstart : (startJsonIntoOptions plainCodecs
        (realityProfile.asStart plainSurroundings [] none none none none)).map
          (fun opts => (opts.realityTarget, opts.realityPublicKey)) = .ok (none, none) := by
      decide +kernel
    obtain ⟨opts, hok, heq⟩ := map_eq_ok.mp hstart
    obtain ⟨htarget, hkey⟩ := Prod.mk.inj heq
    obtain ⟨o, ho, hget, hopts⟩ :=
      accepted_of_blank (by decide) (by decide +kernel) (by decide) hok
    have hwritten : o.get "reality_target" = some (.str "vk.com:443".toList) := by
      rw [hget]
      decide +kernel
    exact ⟨o, opts, by decide, ho, hwritten, hopts, htarget, hkey⟩
  · have hstart : (startJsonIntoOptions plainCodecs
        (balancedProfile.asStart plainSurroundings [] none none none none)).map
          (fun opts => (opts.decoyGets, opts.decoyGetsIntervalSecs, opts.decoyGetsPaths)) =
        .ok (true, 30, []) := by
      decide +kernel
    obtain ⟨opts, hok, heq⟩ := map_eq_ok.mp hstart
    simp only [Prod.mk.injEq] at heq
    obtain ⟨o, ho, -, hopts⟩ :=
      accepted_of_blank (by decide) (by decide +kernel) (by decide) hok
    exact ⟨o, opts, by decide, ho, hopts, heq.1, heq.2.1, heq.2.2⟩

/-- A profile with a server, a token and a PSK arrives as it is. -/
theorem profile_reaches_client_iff_plain :
    ∃ o opts, plainProfile.startConfigJson plainSurroundings = .ok o ∧
      localClientOptionsFromJsonWithBinds plainCodecs o [] none = (some [], .ok opts) ∧
      Kept plainCodecs plainSurroundings plainProfile (some []) opts := by
  have hstart : (startJsonIntoOptions plainCodecs
      (plainProfile.asStart plainSurroundings [] none none none none)).map (fun _ => ()) =
      .ok () := by
    decide +kernel
  obtain ⟨opts, hok, -⟩ := map_eq_ok.mp hstart
  have hman : plainProfile.useInvite = false := by decide
  obtain ⟨o, ho, -, hopts⟩ := accepted_of_blank hman (by decide +kernel) (by decide) hok
  refine ⟨o, opts, ho, hopts, ?_⟩
  exact (profile_reaches_client_iff plainCodecs plainSurroundings plainProfile o [] none (some [])
    opts hman ho hopts).mpr ⟨rfl, rfl, rfl, .inr ⟨rfl, rfl⟩⟩

end BibaVpn.Apps.Desktop
