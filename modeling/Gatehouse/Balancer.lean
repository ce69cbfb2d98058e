import Gatehouse.Certificates
import Gatehouse.Host.Files
import Gatehouse.Http.Message
import Gatehouse.Http.Redirect
import Gatehouse.Listener.Basic
import Gatehouse.Settings.Check
import Gatehouse.Time
import Gatehouse.Tls.KeyPair

/-!
The balancer: listeners at fixed addresses that redirect every request to another location, or pass their
connections on to one target. It starts with all of its listeners or with none.

`startOn` is the start as a whole, `startOne` that of one listener, up to the socket that it listens on; `stopOne` is the
stop of either kind of listener. Of what a listener then does there is the answer of a redirect to one request
(`redirectAnswer`); accepting connections, TLS and the framing of HTTP are left out. How long a listener takes to end is a
matter of the system (`System.lag`).
-/

namespace Gatehouse.Balancer

open Net Host Http

/-! ## Faults -/

/-- Why a listener cannot start. -/
inductive StartFault where
  | badBind (text : Text)
  | openCertificates (path detail : Text)
  | readCertificates (path detail : Text)
  | noCertificates (path : Text)
  | openKey (path detail : Text)
  | readKey (path detail : Text)
  | noKey (path : Text)
  | tls (detail : Text)
  | noRedirect (bind : Text) (scheme : Scheme)
  | localAddress (detail : Text)
  | fault (f : Fault)
  deriving DecidableEq

def StartFault.message : StartFault → Text
  | badBind text => (Settings.Complaint.balancerBind text).message
  | openCertificates path detail => "Failed to open certificate file " ++ path ++ ": " ++ detail
  | readCertificates path detail => "Failed to parse certificates from " ++ path ++ ": " ++ detail
  | noCertificates path => "No certificates found in " ++ path
  | openKey path detail => "Failed to open key file " ++ path ++ ": " ++ detail
  | readKey path detail => "Failed to parse key from " ++ path ++ ": " ++ detail
  | noKey path => "No private key found in " ++ path
  | tls detail => "TLS configuration error: " ++ detail
  | noRedirect bind scheme => "Balancer listener " ++ bind ++ " redirects but its scheme is " ++ scheme.name
  | localAddress detail => detail
  | fault f => f.message

def lift {α : Type} : Except Fault α → Except StartFault α
  | .ok a => .ok a
  | .error f => .error (.fault f)

/-! ## Certificates from files -/

def readCertificates (fs : Files) (working : Path) (path : Text) : Except StartFault (List Bytes) :=
  match fs.openFor working path with
  | .error e => .error (.openCertificates path e.text)
  | .ok opened =>
    match opened.read with
    | .error e => .error (.readCertificates path e.text)
    | .ok content =>
      match Tls.Pem.certificates content with
      | .error c => .error (.readCertificates path c.message)
      | .ok [] => .error (.noCertificates path)
      | .ok certificates => .ok certificates

def readKey (fs : Files) (working : Path) (path : Text) : Except StartFault Tls.Pem.Section :=
  match fs.openFor working path with
  | .error e => .error (.openKey path e.text)
  | .ok opened =>
    match opened.read with
    | .error e => .error (.readKey path e.text)
    | .ok content =>
      match Tls.Pem.privateKey content with
      | .error c => .error (.readKey path c.message)
      | .ok none => .error (.noKey path)
      | .ok (some key) => .ok key

/-- Whether a listener has its certificate from files, which are checked then. -/
def checkFiles (fs : Files) (working : Path) (l : Settings.Listener) : Except StartFault Bool :=
  match l.certificateFile, l.keyFile with
  | some certificatePath, some keyPath => do
    let certificates ← readCertificates fs working certificatePath
    let key ← readKey fs working keyPath
    match Tls.checkPair (certificates.headD []) key with
    | .ok () => pure true
    | .error e => .error (.tls e.message)
  | _, _ => pure false

/-! ## Preparing -/

/-- A listener that runs. -/
inductive Running where
  | redirect (address : Socket) (target : Text)
  | proxy (l : Listener)

def Running.address : Running → Socket
  | redirect address _ => address
  | proxy l => l.address

/-- The addresses of listeners that run, in their order. -/
def addresses (running : List Running) : List Socket := running.map Running.address

/-- What a listener does with its connections. -/
inductive Service where
  | redirect (target : Text)
  | proxy (host : Text) (route : Route)

/-- The listener that does this on an address. -/
def Service.on (s : Service) (address : Socket) : Running :=
  match s with
  | redirect target => .redirect address target
  | proxy host route => .proxy ⟨host, address, route⟩

/-- The fault of a listener that was opened and cannot learn its address. -/
def Service.addressFault (s : Service) (asked : Socket) (detail : Text) : StartFault :=
  match s with
  | redirect _ => .localAddress detail
  | proxy _ _ => .fault (.bind asked detail)

/-- A listener that could start, if its address is free. -/
structure Prepared where
  address : Socket
  service : Service

/-- What the settings of a listener spell: its address, its scheme, and whether its certificate is from files. -/
def check (fs : Files) (working : Path) (l : Settings.Listener) : Except StartFault (Socket × Scheme × Bool) :=
  match Socket.parse? l.bind with
  | none => .error (.badBind l.bind)
  | some address => do
    let scheme ← lift (Scheme.parse l.scheme)
    let fromFiles ← checkFiles fs working l
    pure (address, scheme, fromFiles)

/-- Finds out what a listener is to do. A redirect is tried, and its certificate issued, before it is opened. -/
def serviceOf (a : Authority) (l : Settings.Listener) (scheme : Scheme) (fromFiles : Bool) :
    Except StartFault Service × Authority :=
  match l.mode with
  | .proxy =>
    match Route.parse l.target (some scheme) with
    | .error f => (.error (.fault f), a)
    | .ok route => (.ok (.proxy l.hostname route), a)
  | .redirect =>
    if scheme.isHttp then
      match Redirect.location l.target (some l.hostname) "/" none with
      | .error f => (.error (.fault f), a)
      | .ok _ =>
        if scheme.terminatesTls ∧ fromFiles = false then
          match a.serve l.hostname with
          | (.ok _, a) => (.ok (.redirect l.target), a)
          | (.error f, a) => (.error (.fault f), a)
        else (.ok (.redirect l.target), a)
    else (.error (.noRedirect l.bind scheme), a)

/-- Prepares a listener: everything except listening itself. -/
def prepare (fs : Files) (working : Path) (a : Authority) (l : Settings.Listener) :
    Except StartFault Prepared × Authority :=
  match check fs working l with
  | .error e => (.error e, a)
  | .ok (address, scheme, fromFiles) =>
    match serviceOf a l scheme fromFiles with
    | (.error e, a) => (.error e, a)
    | (.ok service, a) => (.ok ⟨address, service⟩, a)

/-! ## Listening -/

/-- What the system does for programs that listen. -/
structure System where
  /-- The address that a new listener gets while these addresses are taken, or why it gets none; for port zero the system
  chooses a port. -/
  bind : List Socket → Socket → Except Text Socket
  /-- Why a listener cannot be told the address that it has got, if it cannot. -/
  untold : List Socket → Socket → Option Text
  /-- How long a listener that is told to stop waits for its next turn, with which it ends. -/
  lag : Socket → Duration
  /-- Whether a listener that was broken off is dropped right away, and not only when the stop is over. -/
  drops : Socket → Bool

/-- What the system says of a new listener, by the addresses that are taken. -/
abbrev Listening := List Socket → Socket → Option Text

/-- A system on which a listener that is not refused gets the address that it asks for, and stops at once. -/
def System.refusing (refusal : Listening) : System where
  bind taken address :=
    match refusal taken address with
    | some cause => .error cause
    | none => .ok address
  untold _ _ := none
  lag _ := 0
  drops _ := true

/-- What is asked of the system, and what it does with listeners that are no longer wanted. -/
inductive Call where
  /-- A listener on this address, which does not come about. -/
  | refused (address : Socket)
  /-- A listener, which gets this address. -/
  | listen (address : Socket)
  /-- A listener that runs is told to stop, and does so in time or not. -/
  | stop (address : Socket) (ended : Bool)
  /-- A listener that did not stop in time is broken off. It still listens until the system drops it. -/
  | abort (address : Socket)
  /-- A listener is dropped: one that was broken off, or one that does not run yet. -/
  | drop (address : Socket)
  deriving DecidableEq

/-- The addresses that are listened on after a call. -/
def Call.carryOut (taken : List Socket) : Call → List Socket
  | refused _ => taken
  | listen address => taken ++ [address]
  | stop address true => taken.erase address
  | stop _ false => taken
  | abort _ => taken
  | drop address => taken.erase address

/-- The addresses that are listened on after these calls. -/
def listening (taken : List Socket) (calls : List Call) : List Socket := calls.foldl Call.carryOut taken

/-! ## Starting and stopping -/

def startOne (fs : Files) (working : Path) (sys : System) (taken : List Socket) (a : Authority)
    (l : Settings.Listener) : Except StartFault Running × List Call × Authority :=
  match prepare fs working a l with
  | (.error e, a) => (.error e, [], a)
  | (.ok p, a) =>
    match sys.bind taken p.address with
    | .error cause => (.error (.fault (.bind p.address cause)), [.refused p.address], a)
    | .ok address =>
      match sys.untold (taken ++ [address]) address with
      | some detail =>
        (.error (p.service.addressFault p.address detail), [.listen address, .drop address], a)
      | none => (.ok (p.service.on address), [.listen address], a)

/-- Stops a listener. If it has not ended when the time for that is over it is broken off, and nobody waits for the
system to drop it. -/
def stopOne (sys : System) (limit : Duration) (r : Running) : List Call :=
  if sys.lag r.address ≤ limit then [.stop r.address true]
  else [.stop r.address false, .abort r.address] ++ if sys.drops r.address then [.drop r.address] else []

/-- Stops listeners one after the other. -/
def stopAll (sys : System) (limit : Duration) (running : List Running) : List Call :=
  running.flatMap (stopOne sys limit)

/-- Starts one listener after the other; the first that fails stops those that run. -/
def startAll (fs : Files) (working : Path) (sys : System) (limit : Duration) (taken : List Socket) (a : Authority)
    (running : List Running) : List Settings.Listener → Except StartFault (List Running) × List Call
  | [] => (.ok running, [])
  | l :: rest =>
    match startOne fs working sys taken a l with
    | (.error e, calls, _) => (.error e, calls ++ stopAll sys limit running)
    | (.ok r, calls, a) =>
      let later := startAll fs working sys limit (listening taken calls) a (running ++ [r]) rest
      (later.1, calls ++ later.2)

/-- How long a listener is given to end when it is told to stop. -/
def stopLimit (limits : Settings.Proxy) : Duration := .ofSeconds limits.stop

/-- Starts the balancer: all listeners, in their order, or none. -/
def startOn (fs : Files) (working : Path) (sys : System) (taken : List Socket) (limits : Settings.Proxy)
    (listeners : List Settings.Listener) : Except StartFault (List Running) × List Call :=
  startAll fs working sys (stopLimit limits) taken .new [] listeners

/-- Starts the balancer where listeners get the addresses that they ask for. -/
def start (fs : Files) (working : Path) (refusal : Listening) (taken : List Socket) (limits : Settings.Proxy)
    (listeners : List Settings.Listener) : Except StartFault (List Running) × List Call :=
  startOn fs working (.refusing refusal) taken limits listeners

/-! ## Redirecting -/

/-- The host that a request is for: its `Host` field, else the authority of its URI. -/
def requestHost (r : Request) : Option Text :=
  match r.fields.text? "host" with
  | some host => some host
  | none => r.uri.authority?

/-- The response that sends a client elsewhere; a location with control characters cannot be sent. -/
def redirectResponse (location : Text) : Response :=
  if (Text.utf8 location).all Fields.isValueByte then
    ⟨301, [("location", Text.utf8 location)], []⟩
  else .ofFault (.invalidTarget (location ++ ": failed to parse header value"))

def redirectAnswer (target : Text) (r : Request) : Response :=
  match Redirect.location target (requestHost r) r.uri.path r.uri.query? with
  | .ok location => redirectResponse location
  | .error f => .ofFault f

end Gatehouse.Balancer
