/-
# The start configuration of the client

The apps start the embedded client with a JSON object (`start_json_config.rs`).  `StartJson` is read
from it, every key on its own, and is then merged with an optional invite and the preset of a
stealth profile into `LocalClientOptions`.

* §1 is the reader.  `StartJson.read_of_readFrom` says what each field is: nothing but its own key
  is looked at;
* §2 is the invite, §3 the pieces of the merge, each with the precedence that the code gives it;
* §4 puts them together, in the order of the code.

Text and object of the JSON are identified: `serde_json` parses what it has written.  Which of
several wrong fields is reported is not modelled.  The invite decoder, base64, hexadecimal and the
text of `{:?}` are parameters (`Codecs`).
-/
import BibaVpn.Lib.Json
import BibaVpn.Client.Stealth
import BibaVpn.Mux.Flow
import BibaVpn.Server.Users

namespace BibaVpn.Client

open Json Fallible Machine
open Wire (PadMode)
open Mux (MuxWindow)

/-! ## 1. Reading the object -/

/-- `StartJson`. -/
structure StartJson where
  server : Text
  token : Option Text
  sni : Option Text
  socksBind : Text
  socksAuthUser : Option Text
  socksAuthPassword : Option Text
  splitBypassDomains : List Text
  httpProxy : Option Text
  insecure : Bool
  maxPad : Option UInt8
  junkFrames : Option UInt32
  earlyWsFrames : Option UInt8
  psk : Option Text
  decoyMax : Option UInt8
  wsHost : Option Text
  wsOrigin : Option Text
  wsUserAgent : Option Text
  wsAcceptLanguage : Option Text
  wsHeaders : List Text
  maxWsBinary : Option UInt64
  wsPingSecs : Option UInt64
  fromInvite : Option Text
  invitePassphrase : Option Text
  tlsProfile : Option Text
  wsPingJitterPercent : Option UInt8
  wsBinarySendJitterMs : Option UInt8
  wsJitterMinMs : Option UInt8
  wsJitterMaxMs : Option UInt8
  udpMaxPad : Option UInt8
  udpMaxWsBinary : Option UInt64
  udpMuxReplyTimeoutSecs : Option UInt64
  pinCertPem : Option Text
  wsPath : Option Text
  useTcpMux : Option Bool
  padMode : Option Text
  dummyIntervalSecs : Option UInt64
  decoyGets : Option Bool
  decoyGetsIntervalSecs : Option UInt64
  decoyGetsPaths : Option Text
  proto : Option UInt8
  protoDomain : Option Text
  decoyMode : Option Text
  desyncMode : Option Text
  tcpFooling : Option Text
  tlsFragment : Bool
  wsParallel : Option UInt8
  muxWindowMib : MuxWindow
  idleDecoySecs : Option UInt64
  stealthProfile : Option Text
  tlsStack : Option Text
  fingerprint : Option Text
  logLevel : Option Text
  logFormat : Option Text

def defaultSocks : Text := "127.0.0.1:1080".toList

/-- `MuxWindow::default`. -/
def defaultMuxWindow : MuxWindow := ⟨1, Nat.zero_lt_one, Mux.one_le_four⟩

/-- `MuxWindow::try_from` of a `u8`. -/
def toMuxWindow : Json → Option MuxWindow
  | .num n => if h : 1 ≤ n ∧ n ≤ 4 then some ⟨n, h.1, h.2⟩ else none
  | _ => none

/-- `serde_json::from_str` into `StartJson`. -/
def StartJson.read (o : Object) : Except String StartJson := do
  let server ← o.fieldOr toText "server" []
  let token ← o.field toText "token"
  let sni ← o.field toText "sni"
  let socksBind ← o.fieldOr toText "socks_bind" defaultSocks
  let socksAuthUser ← o.field toText "socks_auth_user"
  let socksAuthPassword ← o.field toText "socks_auth_password"
  let splitBypassDomains ← o.fieldOr toTexts "split_bypass_domains" []
  let httpProxy ← o.field toText "http_proxy"
  let insecure ← o.fieldOr toBool "insecure" false
  let maxPad ← o.field toUInt8 "max_pad"
  let junkFrames ← o.field toUInt32 "junk_frames"
  let earlyWsFrames ← o.field toUInt8 "early_ws_frames"
  let psk ← o.field toText "psk"
  let decoyMax ← o.field toUInt8 "decoy_max"
  let wsHost ← o.field toText "ws_host"
  let wsOrigin ← o.field toText "ws_origin"
  let wsUserAgent ← o.field toText "ws_user_agent"
  let wsAcceptLanguage ← o.field toText "ws_accept_language"
  let wsHeaders ← o.fieldOr toTexts "ws_headers" []
  let maxWsBinary ← o.field toUInt64 "max_ws_binary"
  let wsPingSecs ← o.field toUInt64 "ws_ping_secs"
  let fromInvite ← o.field toText "from_invite"
  let invitePassphrase ← o.field toText "invite_passphrase"
  let tlsProfile ← o.field toText "tls_profile"
  let wsPingJitterPercent ← o.field toUInt8 "ws_ping_jitter_percent"
  let wsBinarySendJitterMs ← o.field toUInt8 "ws_binary_send_jitter_ms"
  let wsJitterMinMs ← o.field toUInt8 "ws_jitter_min_ms"
  let wsJitterMaxMs ← o.field toUInt8 "ws_jitter_max_ms"
  let udpMaxPad ← o.field toUInt8 "udp_max_pad"
  let udpMaxWsBinary ← o.field toUInt64 "udp_max_ws_binary"
  let udpMuxReplyTimeoutSecs ← o.field toUInt64 "udp_mux_reply_timeout_secs"
  let pinCertPem ← o.field toText "pin_cert_pem"
  let wsPath ← o.field toText "ws_path"
  let useTcpMux ← o.field toBool "use_tcp_mux"
  let padMode ← o.field toText "pad_mode"
  let dummyIntervalSecs ← o.field toUInt64 "dummy_interval_secs"
  let decoyGets ← o.field toBool "decoy_gets"
  let decoyGetsIntervalSecs ← o.field toUInt64 "decoy_gets_interval_secs"
  let decoyGetsPaths ← o.field toText "decoy_gets_paths"
  let proto ← o.field toUInt8 "proto"
  let protoDomain ← o.field toText "proto_domain"
  let decoyMode ← o.field toText "decoy_mode"
  let desyncMode ← o.field toText "desync_mode"
  let tcpFooling ← o.field toText "tcp_fooling"
  let tlsFragment ← o.fieldOr toBool "tls_fragment" false
  let wsParallel ← o.field toUInt8 "ws_parallel"
  let muxWindowMib ← o.fieldOr toMuxWindow "mux_window_mib" defaultMuxWindow
  let idleDecoySecs ← o.field toUInt64 "idle_decoy_secs"
  let stealthProfile ← o.field toText "stealth_profile"
  let tlsStack ← o.field toText "tls_stack"
  let fingerprint ← o.field toText "fingerprint"
  let logLevel ← o.field toText "log_level"
  let logFormat ← o.field toText "log_format"
  return {
    server, token, sni, socksBind, socksAuthUser, socksAuthPassword, splitBypassDomains, httpProxy,
    insecure, maxPad, junkFrames, earlyWsFrames, psk, decoyMax, wsHost, wsOrigin, wsUserAgent,
    wsAcceptLanguage, wsHeaders, maxWsBinary, wsPingSecs, fromInvite, invitePassphrase, tlsProfile,
    wsPingJitterPercent, wsBinarySendJitterMs, wsJitterMinMs, wsJitterMaxMs, udpMaxPad,
    udpMaxWsBinary, udpMuxReplyTimeoutSecs, pinCertPem, wsPath, useTcpMux, padMode,
    dummyIntervalSecs, decoyGets, decoyGetsIntervalSecs, decoyGetsPaths, proto, protoDomain,
    decoyMode, desyncMode, tcpFooling, tlsFragment, wsParallel, muxWindowMib, idleDecoySecs,
    stealthProfile, tlsStack, fingerprint, logLevel, logFormat }

/-- What each field is read from. -/
structure StartJson.ReadFrom (o : Object) (j : StartJson) : Prop where
  server : o.fieldOr toText "server" [] = .ok j.server
  token : o.field toText "token" = .ok j.token
  sni : o.field toText "sni" = .ok j.sni
  socksBind : o.fieldOr toText "socks_bind" defaultSocks = .ok j.socksBind
  socksAuthUser : o.field toText "socks_auth_user" = .ok j.socksAuthUser
  socksAuthPassword : o.field toText "socks_auth_password" = .ok j.socksAuthPassword
  splitBypassDomains : o.fieldOr toTexts "split_bypass_domains" [] = .ok j.splitBypassDomains
  httpProxy : o.field toText "http_proxy" = .ok j.httpProxy
  insecure : o.fieldOr toBool "insecure" false = .ok j.insecure
  maxPad : o.field toUInt8 "max_pad" = .ok j.maxPad
  junkFrames : o.field toUInt32 "junk_frames" = .ok j.junkFrames
  earlyWsFrames : o.field toUInt8 "early_ws_frames" = .ok j.earlyWsFrames
  psk : o.field toText "psk" = .ok j.psk
  decoyMax : o.field toUInt8 "decoy_max" = .ok j.decoyMax
  wsHost : o.field toText "ws_host" = .ok j.wsHost
  wsOrigin : o.field toText "ws_origin" = .ok j.wsOrigin
  wsUserAgent : o.field toText "ws_user_agent" = .ok j.wsUserAgent
  wsAcceptLanguage : o.field toText "ws_accept_language" = .ok j.wsAcceptLanguage
  wsHeaders : o.fieldOr toTexts "ws_headers" [] = .ok j.wsHeaders
  maxWsBinary : o.field toUInt64 "max_ws_binary" = .ok j.maxWsBinary
  wsPingSecs : o.field toUInt64 "ws_ping_secs" = .ok j.wsPingSecs
  fromInvite : o.field toText "from_invite" = .ok j.fromInvite
  invitePassphrase : o.field toText "invite_passphrase" = .ok j.invitePassphrase
  tlsProfile : o.field toText "tls_profile" = .ok j.tlsProfile
  wsPingJitterPercent : o.field toUInt8 "ws_ping_jitter_percent" = .ok j.wsPingJitterPercent
  wsBinarySendJitterMs : o.field toUInt8 "ws_binary_send_jitter_ms" = .ok j.wsBinarySendJitterMs
  wsJitterMinMs : o.field toUInt8 "ws_jitter_min_ms" = .ok j.wsJitterMinMs
  wsJitterMaxMs : o.field toUInt8 "ws_jitter_max_ms" = .ok j.wsJitterMaxMs
  udpMaxPad : o.field toUInt8 "udp_max_pad" = .ok j.udpMaxPad
  udpMaxWsBinary : o.field toUInt64 "udp_max_ws_binary" = .ok j.udpMaxWsBinary
  udpMuxReplyTimeoutSecs :
    o.field toUInt64 "udp_mux_reply_timeout_secs" = .ok j.udpMuxReplyTimeoutSecs
  pinCertPem : o.field toText "pin_cert_pem" = .ok j.pinCertPem
  wsPath : o.field toText "ws_path" = .ok j.wsPath
  useTcpMux : o.field toBool "use_tcp_mux" = .ok j.useTcpMux
  padMode : o.field toText "pad_mode" = .ok j.padMode
  dummyIntervalSecs : o.field toUInt64 "dummy_interval_secs" = .ok j.dummyIntervalSecs
  decoyGets : o.field toBool "decoy_gets" = .ok j.decoyGets
  decoyGetsIntervalSecs :
    o.field toUInt64 "decoy_gets_interval_secs" = .ok j.decoyGetsIntervalSecs
  decoyGetsPaths : o.field toText "decoy_gets_paths" = .ok j.decoyGetsPaths
  proto : o.field toUInt8 "proto" = .ok j.proto
  protoDomain : o.field toText "proto_domain" = .ok j.protoDomain
  decoyMode : o.field toText "decoy_mode" = .ok j.decoyMode
  desyncMode : o.field toText "desync_mode" = .ok j.desyncMode
  tcpFooling : o.field toText "tcp_fooling" = .ok j.tcpFooling
  tlsFragment : o.fieldOr toBool "tls_fragment" false = .ok j.tlsFragment
  wsParallel : o.field toUInt8 "ws_parallel" = .ok j.wsParallel
  muxWindowMib : o.fieldOr toMuxWindow "mux_window_mib" defaultMuxWindow = .ok j.muxWindowMib
  idleDecoySecs : o.field toUInt64 "idle_decoy_secs" = .ok j.idleDecoySecs
  stealthProfile : o.field toText "stealth_profile" = .ok j.stealthProfile
  tlsStack : o.field toText "tls_stack" = .ok j.tlsStack
  fingerprint : o.field toText "fingerprint" = .ok j.fingerprint
  logLevel : o.field toText "log_level" = .ok j.logLevel
  logFormat : o.field toText "log_format" = .ok j.logFormat

/-- **Every field is read from its own key, and from nothing else.** -/
theorem StartJson.read_of_readFrom {o : Object} {j : StartJson} (h : j.ReadFrom o) :
    StartJson.read o = .ok j := by
  unfold StartJson.read
  rw [h.server, h.token, h.sni, h.socksBind, h.socksAuthUser, h.socksAuthPassword,
    h.splitBypassDomains, h.httpProxy, h.insecure, h.maxPad, h.junkFrames, h.earlyWsFrames,
    h.psk, h.decoyMax, h.wsHost, h.wsOrigin, h.wsUserAgent, h.wsAcceptLanguage, h.wsHeaders,
    h.maxWsBinary, h.wsPingSecs, h.fromInvite, h.invitePassphrase, h.tlsProfile,
    h.wsPingJitterPercent, h.wsBinarySendJitterMs, h.wsJitterMinMs, h.wsJitterMaxMs, h.udpMaxPad,
    h.udpMaxWsBinary, h.udpMuxReplyTimeoutSecs, h.pinCertPem, h.wsPath, h.useTcpMux, h.padMode,
    h.dummyIntervalSecs, h.decoyGets, h.decoyGetsIntervalSecs, h.decoyGetsPaths, h.proto,
    h.protoDomain, h.decoyMode, h.desyncMode, h.tcpFooling, h.tlsFragment, h.wsParallel,
    h.muxWindowMib, h.idleDecoySecs, h.stealthProfile, h.tlsStack, h.fingerprint, h.logLevel,
    h.logFormat]
  rfl

theorem StartJson.readFrom_of_read {o : Object} {j : StartJson} (h : StartJson.read o = .ok j) :
    j.ReadFrom o := by
  unfold StartJson.read at h
  -- one reader for each of the fields
  iterate 53 obtain ⟨_, _, h⟩ := bind_eq_ok.mp h
  cases h
  constructor <;> assumption

/-! ## 2. The invite, and what the client starts with -/

/-- `InviteV1`, without the hints for a server. -/
structure InviteV1 where
  server : Text
  sni : Text
  token : Text
  proto : UInt8
  protoDomain : Option Text
  psk : Option Text
  decoyMax : UInt8
  maxPad : UInt8
  maxWsBinary : UInt64
  wsPingSecs : UInt64
  wsPingJitterPercent : UInt8
  wsBinarySendJitterMs : UInt8
  wsJitterMinMs : UInt8
  wsJitterMaxMs : UInt8
  udpMaxPad : Option UInt8
  udpMaxWsBinary : Option UInt64
  udpMuxReplyTimeoutSecs : UInt64
  insecure : Bool
  tlsProfile : Text
  wsPath : Option Text
  padMode : Option Text
  dummyIntervalSecs : Option UInt64
  httpProxy : Option Text
  socksBind : Option Text
  socksAuthUser : Option Text
  socksAuthPassword : Option Text
  junkFrames : UInt32
  earlyWsFrames : UInt8
  wsHost : Option Text
  wsOrigin : Option Text
  wsUserAgent : Option Text
  wsAcceptLanguage : Option Text
  wsHeaders : List Text
  useTcpMux : Bool
  decoyGets : Bool
  decoyGetsIntervalSecs : UInt64
  decoyGetsPaths : Option Text
  fingerprint : Option Text
  stealthProfile : Option Text
  decoyMode : Option Text
  desyncMode : Option Text
  tcpFooling : Option Text
  tlsFragment : Bool
  wsParallel : UInt8
  idleDecoySecs : Option UInt64
  tlsStack : Text
  realityTarget : Option Text
  realityPublicKey : Option Text
  realityShortId : Option Text
  pinCertPem : Option Text

/-- What the start uses of other libraries and of the invite decoder. -/
structure Codecs where
  /-- `decode_invite_v1` -/
  decodeInvite : Text → Text → Except String InviteV1
  /-- `base64`, standard alphabet -/
  decodeBase64 : Text → Except String Bytes
  /-- `hex` -/
  decodeHex : Text → Except String Bytes
  /-- `{:?}` of a string -/
  quote : Text → String

/-- `LocalClientOptions`. -/
structure LocalClientOptions where
  serverHost : Text
  serverPort : UInt16
  sni : Text
  token : Text
  socksBind : Text
  socksAuth : Option (Text × Text)
  httpProxyBind : Option Text
  insecureTls : Bool
  maxPad : UInt8
  junkFrames : UInt32
  earlyWsFrames : UInt8
  psk : Option Text
  decoyMax : UInt8
  wsHost : Option Text
  wsOrigin : Option Text
  wsUserAgent : Option Text
  wsAcceptLanguage : Option Text
  wsExtraHeaders : List (Text × Text)
  maxWsBinary : UInt64
  wsPingSecs : UInt64
  wsPingJitterPercent : UInt8
  wsBinarySendJitterMs : UInt8
  wsJitterMinMs : UInt8
  wsJitterMaxMs : UInt8
  udpMaxPad : Option UInt8
  udpMaxWsBinary : Option UInt64
  udpMuxReplyTimeoutSecs : UInt64
  tlsProfile : TlsClientProfile
  pinnedCertsPem : Option Bytes
  wsPath : Text
  useTcpMux : Bool
  padMode : PadMode
  dummyIntervalSecs : UInt64
  decoyGets : Bool
  decoyGetsIntervalSecs : UInt64
  decoyGetsPaths : List Text
  proto : UInt8
  protoDomain : Text
  realityTarget : Option Text
  realityPublicKey : Option Bytes
  realityShortId : Option Bytes
  decoyMode : DecoyMode
  desyncMode : DesyncMode
  tcpFooling : TcpFooling
  tlsFragment : Bool
  wsParallel : UInt8
  muxWindowMib : MuxWindow
  idleDecoySecs : UInt64
  stealthProfile : Option StealthProfile
  tlsStack : TlsStack

/-! ## 3. The pieces of the merge -/

def defaultMaxPad : UInt8 := 64

/-- `DEFAULT_CLIENT_MAX_WS_BINARY`. -/
def defaultMaxWsBinary : UInt64 := 262144

def defaultWsPing : UInt64 := 25

/-- `DEFAULT_UDP_MUX_REPLY_TIMEOUT_SECS`. -/
def defaultUdpMuxReplyTimeout : UInt64 := 130

def defaultDecoyInterval : UInt64 := 30

/-- `parse_host_port`. -/
def parseHostPort (s : Text) : Except String (Text × UInt16) := do
  let s := Text.trim s
  match Text.splitAtLast ':' s with
  | some (h, p) =>
    let p ← Text.parseUnsigned u16Max (Text.trimStartMatches ':' p)
    let h := (Text.stripEnds '[' ']' h).getD h
    if h.isEmpty then .error ("empty host in host:port, got " ++ String.ofList s)
    else return (h, .ofNat p)
  | none => .error ("expected host:port, got " ++ String.ofList s)

/-- `normalize_ws_path`. -/
def normalizeWsPath (s : Text) : Text :=
  match Text.trim s with
  | [] => "/ws".toList
  | c :: t => if c = '/' then c :: t else '/' :: c :: t

/-- `parse_ws_header`. -/
def parseWsHeader (quote : Text → String) (line : Text) : Except String (Text × Text) :=
  match Text.splitOnce ':' line with
  | some (k, v) => .ok (Text.trim k, Text.trim v)
  | none => .error ("--ws-header must be 'Name: value', got " ++ quote line)

/-- A list of paths, with commas between them. -/
def splitPaths (s : Text) : List Text := ((s.splitOn ',').map Text.trim).filter fun x => !x.isEmpty

/-- `extract_sni`. -/
def extractSni (target : Text) : Text :=
  let trimmed := Text.trim target
  match trimmed with
  | '[' :: rest => if ']' ∈ rest then rest.takeWhile (· != ']') else trimmed.takeWhile (· != ':')
  | _ => trimmed.takeWhile (· != ':')

/-- `effective_tls_sni`. -/
def effectiveTlsSni (configuredSni : Text) (realityTarget : Option Text) : Text :=
  ((realityTarget.map extractSni).filter fun s => !s.isEmpty).getD configuredSni

/-- A field of the JSON, or of the invite, or the default. -/
def orInvite {α : Type} (json : Option α) (inv : Option InviteV1) (f : InviteV1 → α) (d : α) : α :=
  json.getD ((inv.map f).getD d)

/-- `json_or_invite_str`. -/
def jsonOrInviteStr (jsonField inviteField : Option Text) : Option Text :=
  (jsonField.bind Text.nonBlank).or (inviteField.bind Text.nonBlank)

/-- A named mode: of the JSON, or of the invite, or the default. -/
def pickMode {α : Type} (fromStr : Text → Except String α) (what : String)
    (json invite : Option Text) (d : α) : Except String α :=
  match json.bind Text.nonBlank, invite.bind Text.nonBlank with
  | some s, _ => context what (fromStr s)
  | none, some s => context ("invite " ++ what) (fromStr s)
  | none, none => .ok d

def invitePair (c : Codecs) (j : StartJson) : Except String (Option InviteV1) :=
  match j.fromInvite.bind Text.nonBlank, j.invitePassphrase.bind Text.nonBlank with
  | some uri, some pass => (context "decode invite" (c.decodeInvite uri pass)).map some
  | none, none => .ok none
  | _, _ => .error "invite: set both from_invite and invite_passphrase, or neither"

def resolveServer (j : StartJson) : Option InviteV1 → Except String (Text × UInt16)
  | some inv => context "invite server" (parseHostPort (Text.trim inv.server))
  | none =>
    if (Text.trim j.server).isEmpty then .error "server is required when not using invite"
    else context "server" (parseHostPort (Text.trim j.server))

def resolveSni (j : StartJson) (host : Text) : Option InviteV1 → Text
  | some inv => (jsonOrInviteStr j.sni (some inv.sni)).getD inv.sni
  | none => (jsonOrInviteStr j.sni none).getD host

def resolveToken (j : StartJson) : Option InviteV1 → Except String Text
  | some inv =>
    match j.token.bind Text.nonBlank with
    | none => .ok inv.token
    | some t =>
      if t = Text.trim inv.token then .ok inv.token
      else .error ("JSON `token` disagrees with invite token; " ++
        "remove `token` from JSON or match the invite")
  | none =>
    match j.token.bind Text.nonBlank with
    | some t => .ok t
    | none => .error "token is required when not using invite"

/-- Without an invite, the PSK of the JSON is not trimmed here. -/
def resolvePsk (j : StartJson) : Option InviteV1 → Except String (Option Text)
  | some inv =>
    match j.psk.bind Text.nonBlank, inv.psk with
    | some a, some b =>
      if a = b then .ok (some a)
      else .error ("JSON `psk` disagrees with invite `psk`; remove one field or align values")
    | some a, none => .ok (some a)
    | none, psk => .ok psk
  | none => .ok j.psk

def inviteWsHeader (quote : Text → String) (line : Text) : Except String (Text × Text) :=
  context ("invite ws header " ++ quote line) (parseWsHeader quote line)

/-- An invite's padding mode is not trimmed: an empty one is `adaptive`. -/
def resolvePadMode (quote : Text → String) (j : StartJson) (inv : Option InviteV1)
    (pr : Option StealthPreset) : Except String PadMode :=
  match j.padMode.bind Text.nonBlank, inv.bind (·.padMode) with
  | some s, _ => context "pad_mode" (padModeFromStr quote s)
  | none, some ps => context "invite pad_mode" (padModeFromStr quote ps)
  | none, none => .ok ((pr.map (·.padMode)).getD .adaptive)

/-- Explicit timing is not overwritten by a preset. -/
def resolveJitter (j : StartJson) (inv : Option InviteV1) (pr : Option StealthPreset) :
    UInt8 × UInt8 :=
  let explicit := j.wsJitterMinMs.isSome || j.wsJitterMaxMs.isSome || j.wsBinarySendJitterMs.isSome
  applyPresetWsJitter (if explicit then none else pr)
    (orInvite j.wsJitterMinMs inv (·.wsJitterMinMs) 0)
    (orInvite j.wsJitterMaxMs inv (·.wsJitterMaxMs) 0)

def resolveDecoyPaths (j : StartJson) (inv : Option InviteV1) : List Text :=
  let fromJson := (j.decoyGetsPaths.map splitPaths).getD []
  if fromJson.isEmpty then ((inv.bind (·.decoyGetsPaths)).map splitPaths).getD [] else fromJson

/-- A preset comes before the invite here. -/
def resolveDecoyGets (j : StartJson) (inv : Option InviteV1) (pr : Option StealthPreset) : Bool :=
  match j.decoyGets, pr, inv with
  | some value, _, _ => value
  | none, some pr, _ => pr.decoyGets
  | none, none, some inv => inv.decoyGets
  | none, none, none => false

/-- `tls_profile_from_invite`. -/
def tlsProfileFromInvite (quote : Text → String) (inv : InviteV1) :
    Except String (Option TlsClientProfile) :=
  match inv.fingerprint.bind Text.nonBlank with
  | some f => (TlsClientProfile.fromFingerprintStr quote f).map some
  | none =>
    match Text.nonBlank inv.tlsProfile with
    | none => .ok none
    | some t => (TlsClientProfile.fromStr quote t).map some

def inviteTls (quote : Text → String) : Option InviteV1 → Except String (Option TlsClientProfile)
  | some inv => context "invite tls" (tlsProfileFromInvite quote inv)
  | none => .ok none

def resolveTlsStack (quote : Text → String) (j : StartJson) (inv : Option InviteV1) :
    Except String TlsStack :=
  match j.tlsStack.bind Text.nonBlank, inv with
  | some s, _ => TlsStack.fromStr quote s
  | none, some inv => context "invite tls_stack" (TlsStack.fromStr quote inv.tlsStack)
  | none, none => .ok .rustls

/-- Both of user and password, or neither. -/
def authPair (error : String) (user password : Option Text) :
    Except String (Option (Text × Text)) :=
  match user.bind Text.nonBlank, password.bind Text.nonBlank with
  | some u, some p => .ok (some (u, p))
  | none, none => .ok none
  | _, _ => .error error

def resolveSocksAuth (j : StartJson) (inv : Option InviteV1) :
    Except String (Option (Text × Text)) := do
  let auth ← authPair "socks_auth: set both socks_auth_user and socks_auth_password, or omit both"
    j.socksAuthUser j.socksAuthPassword
  match auth, inv with
  | some pair, _ => return some pair
  | none, some inv =>
    authPair "invite: set both socks_auth_user and socks_auth_password, or neither"
      inv.socksAuthUser inv.socksAuthPassword
  | none, none => return none

/-- Bytes of a fixed number, from a text that may be missing. -/
def parseBytes (decode : Text → Except String Bytes) (what : String) (size : Nat)
    (wrongSize : Nat → String) (s : Option Text) : Except String (Option Bytes) :=
  match s.bind Text.nonBlank with
  | none => .ok none
  | some t => do
    let bytes ← context what (decode t)
    if bytes.length = size then return some bytes else .error (wrongSize bytes.length)

/-- `reality_public_key_parsed`. -/
def realityPublicKeyParsed (c : Codecs) (s : Option Text) : Except String (Option Bytes) :=
  parseBytes c.decodeBase64 "reality_public_key: invalid base64" 32
    (fun n => "reality_public_key: expected 32 bytes, got " ++ toString n) s

/-- `reality_short_id_parsed`. -/
def realityShortIdParsed (c : Codecs) (s : Option Text) : Except String (Option Bytes) :=
  parseBytes c.decodeHex "reality_short_id: invalid hex" 8
    (fun _ => "reality_short_id: need 8 bytes (16 hex digits)") s

/-- `client_reality_configured`. -/
def clientRealityConfigured (target : Option Text) (publicKey : Option Bytes) : Bool :=
  (target.bind Text.nonBlank).isSome && publicKey.isSome

/-- `require_psk`, outside the lab mode. -/
def requirePsk (psk : Option Text) (realityConfigured : Bool) : Except String Unit :=
  ensure ((psk.bind Text.nonBlank).isSome || realityConfigured)
    "--psk is required unless REALITY is fully configured or --lab is set"

def clampParallel (n : UInt8) : UInt8 := max 1 (min n 4)

theorem clampParallel_clampParallel (n : UInt8) :
    clampParallel (clampParallel n) = clampParallel n := by
  have hmin : ∀ a b : UInt8, min a b = if a ≤ b then a else b := fun _ _ => rfl
  have hmax : ∀ a b : UInt8, max a b = if a ≤ b then b else a := fun _ _ => rfl
  simp only [clampParallel, hmin, hmax]
  grind

/-! ## 4. The merge -/

/-- `start_json_into_options`, behind the bypass list.  The three REALITY settings come from the
invite only. -/
def startJsonIntoOptions (c : Codecs) (j : StartJson) : Except String LocalClientOptions := do
  let inv ← invitePair c j
  let stealth ← context "stealth_profile" (pickMode
    (fun s => (StealthProfile.fromStr c.quote s).map some) "stealth_profile" j.stealthProfile
    (inv.bind (·.stealthProfile)) none)
  let pr := stealth.map preset
  let server ← resolveServer j inv
  let token ← resolveToken j inv
  Server.validateResolvedToken token
  let psk ← resolvePsk j inv
  let inviteHeaders ← ((inv.map (·.wsHeaders)).getD []).mapM (inviteWsHeader c.quote)
  let jsonHeaders ← j.wsHeaders.mapM (parseWsHeader c.quote)
  let padMode ← resolvePadMode c.quote j inv pr
  let proto := orInvite j.proto inv (·.proto) 3
  ensure (proto == 3) ("only Biba protocol 3 is supported (got proto " ++ toString proto ++ ")")
  let embeddedTls ← inviteTls c.quote inv
  let tlsProfile ← context "tls_profile" (resolveTlsClientProfile c.quote
    (j.fingerprint.bind Text.nonBlank) (j.tlsProfile.bind Text.nonBlank) stealth embeddedTls)
  let decoyMode ← pickMode (DecoyMode.fromStr c.quote) "decoy_mode" j.decoyMode
    (inv.bind (·.decoyMode)) ((pr.map (·.decoyMode)).getD .simple)
  let desyncMode ← pickMode (DesyncMode.fromStr c.quote) "desync_mode" j.desyncMode
    (inv.bind (·.desyncMode)) .off
  let tcpFooling ← pickMode (TcpFooling.fromStr c.quote) "tcp_fooling" j.tcpFooling
    (inv.bind (·.tcpFooling)) .off
  let tlsStack ← resolveTlsStack c.quote j inv
  let socksAuth ← resolveSocksAuth j inv
  let realityTarget := inv.bind (·.realityTarget)
  let realityPublicKey ← context "invite reality_public_key"
    (realityPublicKeyParsed c (inv.bind (·.realityPublicKey)))
  let realityShortId ← context "invite reality_short_id"
    (realityShortIdParsed c (inv.bind (·.realityShortId)))
  ensure (!(realityTarget.isSome || realityPublicKey.isSome || realityShortId.isSome) ||
      (realityTarget.isSome && realityPublicKey.isSome))
    "REALITY mode requires both target and public key in invite (or in JSON, when added)"
  requirePsk psk (clientRealityConfigured realityTarget realityPublicKey)
  let jitter := resolveJitter j inv pr
  return {
    serverHost := server.1
    serverPort := server.2
    sni := effectiveTlsSni (resolveSni j server.1 inv) realityTarget
    token := token
    socksBind := ((inv.bind (·.socksBind)).bind Text.nonBlank).getD j.socksBind
    socksAuth := socksAuth
    httpProxyBind := jsonOrInviteStr j.httpProxy (inv.bind (·.httpProxy))
    insecureTls := j.insecure || (inv.map (·.insecure)).getD false
    maxPad := orInvite j.maxPad inv (·.maxPad) defaultMaxPad
    junkFrames := orInvite j.junkFrames inv (·.junkFrames) 0
    earlyWsFrames := orInvite j.earlyWsFrames inv (·.earlyWsFrames) 0
    psk := psk
    decoyMax := orInvite j.decoyMax inv (·.decoyMax) 0
    wsHost := jsonOrInviteStr j.wsHost (inv.bind (·.wsHost))
    wsOrigin := jsonOrInviteStr j.wsOrigin (inv.bind (·.wsOrigin))
    wsUserAgent := jsonOrInviteStr j.wsUserAgent (inv.bind (·.wsUserAgent))
    wsAcceptLanguage := jsonOrInviteStr j.wsAcceptLanguage (inv.bind (·.wsAcceptLanguage))
    wsExtraHeaders := inviteHeaders ++ jsonHeaders
    maxWsBinary := orInvite j.maxWsBinary inv (·.maxWsBinary) defaultMaxWsBinary
    wsPingSecs := orInvite j.wsPingSecs inv (·.wsPingSecs) defaultWsPing
    wsPingJitterPercent := orInvite j.wsPingJitterPercent inv (·.wsPingJitterPercent) 0
    wsBinarySendJitterMs := orInvite j.wsBinarySendJitterMs inv (·.wsBinarySendJitterMs) 0
    wsJitterMinMs := jitter.1
    wsJitterMaxMs := jitter.2
    udpMaxPad := j.udpMaxPad.or (inv.bind (·.udpMaxPad))
    udpMaxWsBinary := j.udpMaxWsBinary.or (inv.bind (·.udpMaxWsBinary))
    udpMuxReplyTimeoutSecs :=
      orInvite j.udpMuxReplyTimeoutSecs inv (·.udpMuxReplyTimeoutSecs) defaultUdpMuxReplyTimeout
    tlsProfile := tlsProfile
    pinnedCertsPem := (jsonOrInviteStr j.pinCertPem (inv.bind (·.pinCertPem))).map Text.toUtf8
    wsPath := normalizeWsPath ((j.wsPath.or (inv.bind (·.wsPath))).getD "/ws".toList)
    useTcpMux := orInvite j.useTcpMux inv (·.useTcpMux) true
    padMode := padMode
    dummyIntervalSecs := ((j.dummyIntervalSecs.or (inv.bind (·.dummyIntervalSecs))).or
      (pr.map (·.dummyIntervalSecs))).getD 0
    decoyGets := resolveDecoyGets j inv pr
    decoyGetsIntervalSecs :=
      orInvite j.decoyGetsIntervalSecs inv (·.decoyGetsIntervalSecs) defaultDecoyInterval
    decoyGetsPaths := resolveDecoyPaths j inv
    proto := proto
    protoDomain :=
      (jsonOrInviteStr j.protoDomain (inv.bind (·.protoDomain))).getD "default".toList
    realityTarget := realityTarget
    realityPublicKey := realityPublicKey
    realityShortId := realityShortId
    decoyMode := decoyMode
    desyncMode := desyncMode
    tcpFooling := tcpFooling
    tlsFragment := (inv.map (·.tlsFragment)).getD j.tlsFragment
    wsParallel := clampParallel (orInvite j.wsParallel inv (·.wsParallel) 1)
    muxWindowMib := j.muxWindowMib
    idleDecoySecs := mergeIdleDecoySecs (j.idleDecoySecs.or (inv.bind (·.idleDecoySecs))) pr
    stealthProfile := stealth
    tlsStack := tlsStack }

/-- **What the options are**, for a JSON and the invite in it. -/
structure Merged (c : Codecs) (j : StartJson) (inv : Option InviteV1) (opts : LocalClientOptions) :
    Prop where
  stealthProfile : pickMode (fun s => (StealthProfile.fromStr c.quote s).map some) "stealth_profile"
    j.stealthProfile (inv.bind (·.stealthProfile)) none = .ok opts.stealthProfile
  server : resolveServer j inv = .ok (opts.serverHost, opts.serverPort)
  token : resolveToken j inv = .ok opts.token
  psk : resolvePsk j inv = .ok opts.psk
  wsExtraHeaders : ∃ ih jh, ((inv.map (·.wsHeaders)).getD []).mapM (inviteWsHeader c.quote) =
    .ok ih ∧ j.wsHeaders.mapM (parseWsHeader c.quote) = .ok jh ∧ opts.wsExtraHeaders = ih ++ jh
  padMode : resolvePadMode c.quote j inv (opts.stealthProfile.map preset) = .ok opts.padMode
  proto : opts.proto = orInvite j.proto inv (·.proto) 3 ∧ opts.proto = 3
  tlsProfile : ∃ embedded, inviteTls c.quote inv = .ok embedded ∧
    resolveTlsClientProfile c.quote (j.fingerprint.bind Text.nonBlank)
      (j.tlsProfile.bind Text.nonBlank) opts.stealthProfile embedded = .ok opts.tlsProfile
  decoyMode : pickMode (DecoyMode.fromStr c.quote) "decoy_mode" j.decoyMode
    (inv.bind (·.decoyMode))
    (((opts.stealthProfile.map preset).map (·.decoyMode)).getD .simple) = .ok opts.decoyMode
  desyncMode : pickMode (DesyncMode.fromStr c.quote) "desync_mode" j.desyncMode
    (inv.bind (·.desyncMode)) .off = .ok opts.desyncMode
  tcpFooling : pickMode (TcpFooling.fromStr c.quote) "tcp_fooling" j.tcpFooling
    (inv.bind (·.tcpFooling)) .off = .ok opts.tcpFooling
  tlsStack : resolveTlsStack c.quote j inv = .ok opts.tlsStack
  socksAuth : resolveSocksAuth j inv = .ok opts.socksAuth
  realityTarget : opts.realityTarget = inv.bind (·.realityTarget)
  realityPublicKey :
    realityPublicKeyParsed c (inv.bind (·.realityPublicKey)) = .ok opts.realityPublicKey
  realityShortId : realityShortIdParsed c (inv.bind (·.realityShortId)) = .ok opts.realityShortId
  sni : opts.sni = effectiveTlsSni (resolveSni j opts.serverHost inv) opts.realityTarget
  socksBind : opts.socksBind = ((inv.bind (·.socksBind)).bind Text.nonBlank).getD j.socksBind
  httpProxyBind : opts.httpProxyBind = jsonOrInviteStr j.httpProxy (inv.bind (·.httpProxy))
  insecureTls : opts.insecureTls = (j.insecure || (inv.map (·.insecure)).getD false)
  maxPad : opts.maxPad = orInvite j.maxPad inv (·.maxPad) defaultMaxPad
  junkFrames : opts.junkFrames = orInvite j.junkFrames inv (·.junkFrames) 0
  earlyWsFrames : opts.earlyWsFrames = orInvite j.earlyWsFrames inv (·.earlyWsFrames) 0
  decoyMax : opts.decoyMax = orInvite j.decoyMax inv (·.decoyMax) 0
  wsHost : opts.wsHost = jsonOrInviteStr j.wsHost (inv.bind (·.wsHost))
  wsOrigin : opts.wsOrigin = jsonOrInviteStr j.wsOrigin (inv.bind (·.wsOrigin))
  wsUserAgent : opts.wsUserAgent = jsonOrInviteStr j.wsUserAgent (inv.bind (·.wsUserAgent))
  wsAcceptLanguage :
    opts.wsAcceptLanguage = jsonOrInviteStr j.wsAcceptLanguage (inv.bind (·.wsAcceptLanguage))
  maxWsBinary : opts.maxWsBinary = orInvite j.maxWsBinary inv (·.maxWsBinary) defaultMaxWsBinary
  wsPingSecs : opts.wsPingSecs = orInvite j.wsPingSecs inv (·.wsPingSecs) defaultWsPing
  wsPingJitterPercent :
    opts.wsPingJitterPercent = orInvite j.wsPingJitterPercent inv (·.wsPingJitterPercent) 0
  wsBinarySendJitterMs :
    opts.wsBinarySendJitterMs = orInvite j.wsBinarySendJitterMs inv (·.wsBinarySendJitterMs) 0
  wsJitter : (opts.wsJitterMinMs, opts.wsJitterMaxMs) =
    resolveJitter j inv (opts.stealthProfile.map preset)
  udpMaxPad : opts.udpMaxPad = j.udpMaxPad.or (inv.bind (·.udpMaxPad))
  udpMaxWsBinary : opts.udpMaxWsBinary = j.udpMaxWsBinary.or (inv.bind (·.udpMaxWsBinary))
  udpMuxReplyTimeoutSecs : opts.udpMuxReplyTimeoutSecs =
    orInvite j.udpMuxReplyTimeoutSecs inv (·.udpMuxReplyTimeoutSecs) defaultUdpMuxReplyTimeout
  pinnedCertsPem : opts.pinnedCertsPem =
    (jsonOrInviteStr j.pinCertPem (inv.bind (·.pinCertPem))).map Text.toUtf8
  wsPath : opts.wsPath = normalizeWsPath ((j.wsPath.or (inv.bind (·.wsPath))).getD "/ws".toList)
  useTcpMux : opts.useTcpMux = orInvite j.useTcpMux inv (·.useTcpMux) true
  dummyIntervalSecs : opts.dummyIntervalSecs =
    ((j.dummyIntervalSecs.or (inv.bind (·.dummyIntervalSecs))).or
      ((opts.stealthProfile.map preset).map (·.dummyIntervalSecs))).getD 0
  decoyGets : opts.decoyGets = resolveDecoyGets j inv (opts.stealthProfile.map preset)
  decoyGetsIntervalSecs : opts.decoyGetsIntervalSecs =
    orInvite j.decoyGetsIntervalSecs inv (·.decoyGetsIntervalSecs) defaultDecoyInterval
  decoyGetsPaths : opts.decoyGetsPaths = resolveDecoyPaths j inv
  protoDomain : opts.protoDomain =
    (jsonOrInviteStr j.protoDomain (inv.bind (·.protoDomain))).getD "default".toList
  tlsFragment : opts.tlsFragment = (inv.map (·.tlsFragment)).getD j.tlsFragment
  wsParallel : opts.wsParallel = clampParallel (orInvite j.wsParallel inv (·.wsParallel) 1)
  muxWindowMib : opts.muxWindowMib = j.muxWindowMib
  idleDecoySecs : opts.idleDecoySecs =
    mergeIdleDecoySecs (j.idleDecoySecs.or (inv.bind (·.idleDecoySecs)))
      (opts.stealthProfile.map preset)

theorem merged_of_ok {c : Codecs} {j : StartJson} {opts : LocalClientOptions}
    (h : startJsonIntoOptions c j = .ok opts) :
    ∃ inv, invitePair c j = .ok inv ∧ Merged c j inv opts := by
  unfold startJsonIntoOptions at h
  -- the calls of the function, one by one
  obtain ⟨inv, hinv, h⟩ := bind_eq_ok.mp h
  obtain ⟨stealth, hstealth, h⟩ := bind_eq_ok.mp h
  obtain ⟨server, hserver, h⟩ := bind_eq_ok.mp h
  obtain ⟨token, htoken, h⟩ := bind_eq_ok.mp h
  obtain ⟨_, _, h⟩ := bind_eq_ok.mp h
  obtain ⟨psk, hpsk, h⟩ := bind_eq_ok.mp h
  obtain ⟨ih, hih, h⟩ := bind_eq_ok.mp h
  obtain ⟨jh, hjh, h⟩ := bind_eq_ok.mp h
  obtain ⟨padMode, hpad, h⟩ := bind_eq_ok.mp h
  obtain ⟨_, hproto, h⟩ := bind_eq_ok.mp h
  obtain ⟨embedded, hemb, h⟩ := bind_eq_ok.mp h
  obtain ⟨tls, htls, h⟩ := bind_eq_ok.mp h
  obtain ⟨decoy, hdecoy, h⟩ := bind_eq_ok.mp h
  obtain ⟨desync, hdesync, h⟩ := bind_eq_ok.mp h
  obtain ⟨fooling, hfooling, h⟩ := bind_eq_ok.mp h
  obtain ⟨stack, hstack, h⟩ := bind_eq_ok.mp h
  obtain ⟨auth, hauth, h⟩ := bind_eq_ok.mp h
  obtain ⟨key, hkey, h⟩ := bind_eq_ok.mp h
  obtain ⟨short, hshort, h⟩ := bind_eq_ok.mp h
  obtain ⟨_, _, h⟩ := bind_eq_ok.mp h
  obtain ⟨_, _, h⟩ := bind_eq_ok.mp h
  have hproto := eq_of_beq (ensure_eq_ok.mp hproto)
  cases h
  exact ⟨inv, hinv, {
    stealthProfile := context_eq_ok.mp hstealth, server := hserver, token := htoken, psk := hpsk
    wsExtraHeaders := ⟨ih, jh, hih, hjh, rfl⟩, padMode := hpad, proto := ⟨rfl, hproto⟩
    tlsProfile := ⟨embedded, hemb, context_eq_ok.mp htls⟩, decoyMode := hdecoy
    desyncMode := hdesync, tcpFooling := hfooling, tlsStack := hstack, socksAuth := hauth
    realityTarget := rfl, realityPublicKey := context_eq_ok.mp hkey
    realityShortId := context_eq_ok.mp hshort, sni := rfl, socksBind := rfl
    httpProxyBind := rfl, insecureTls := rfl, maxPad := rfl, junkFrames := rfl, earlyWsFrames := rfl
    decoyMax := rfl, wsHost := rfl, wsOrigin := rfl, wsUserAgent := rfl, wsAcceptLanguage := rfl
    maxWsBinary := rfl, wsPingSecs := rfl, wsPingJitterPercent := rfl, wsBinarySendJitterMs := rfl
    wsJitter := rfl, udpMaxPad := rfl, udpMaxWsBinary := rfl, udpMuxReplyTimeoutSecs := rfl
    pinnedCertsPem := rfl, wsPath := rfl, useTcpMux := rfl, dummyIntervalSecs := rfl
    decoyGets := rfl, decoyGetsIntervalSecs := rfl, decoyGetsPaths := rfl, protoDomain := rfl
    tlsFragment := rfl, wsParallel := rfl, muxWindowMib := rfl, idleDecoySecs := rfl }⟩

/-- `set_bypass_domains`: the list that is installed. -/
def cleanedDomains (domains : List Text) : List Text :=
  (domains.map fun d => Text.toAsciiLowercase (Text.trim d)).filter fun d => !d.isEmpty

/-- `level_directive` and `LogFormat::from_str`, of the settings of the log. -/
def checkLog (quote : Text → String) (j : StartJson) : Except String Unit := do
  let _ ← context "log-level" (fromNames [("trace", ()), ("debug", ()), ("info", ()), ("warn", ()),
    ("error", ()), ("", ())] (fun other => "unknown log level " ++ quote other)
    (lowered (j.logLevel.getD "info".toList)))
  context "log_format" (fromNames [("plain", ()), ("text", ()), ("json", ())]
    (fun other => "unknown log format " ++ quote other ++ ": use plain or json")
    (lowered (j.logFormat.getD "plain".toList)))

/-- `local_client_options_from_json_str`: the bypass list that it installs, if it gets there, and
its result. -/
def localClientOptionsFromJson (c : Codecs) (o : Object) :
    Option (List Text) × Except String LocalClientOptions :=
  match StartJson.read o with
  | .error e => (none, .error e)
  | .ok j =>
    match checkLog c.quote j with
    | .error e => (none, .error e)
    | .ok () => (some (cleanedDomains j.splitBypassDomains), startJsonIntoOptions c j)

/-- The local binds, in place of what the object has. -/
def withBinds (o : Object) (socksBind : Text) : Option Text → Object
  | some h => (o.insert "socks_bind" (.str socksBind)).insert "http_proxy" (.str h)
  | none => (o.insert "socks_bind" (.str socksBind)).erase "http_proxy"

theorem get_withBinds (o : Object) (socksBind : Text) (httpProxyBind : Option Text) (k : String) :
    (withBinds o socksBind httpProxyBind).get k =
      if k = "http_proxy" then httpProxyBind.map .str
      else if k = "socks_bind" then some (.str socksBind)
      else o.get k := by
  cases httpProxyBind with
  | none => rw [withBinds, Table.get_erase, Table.get_insert]; rfl
  | some h => rw [withBinds, Table.get_insert, Table.get_insert]; rfl

/-- `local_client_options_from_json_str_with_binds`. -/
def localClientOptionsFromJsonWithBinds (c : Codecs) (o : Object) (socksBind : Text)
    (httpProxyBind : Option Text) : Option (List Text) × Except String LocalClientOptions :=
  localClientOptionsFromJson c (withBinds o socksBind httpProxyBind)

end BibaVpn.Client
