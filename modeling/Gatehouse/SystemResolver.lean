import Gatehouse.Host.Shell
import Gatehouse.Net.Socket
import Gatehouse.Settings.Basic

/-!
Pointing the host's own resolver at the gateway's name server, once for each domain: by a file named after
the domain in a directory that the resolver reads, or by a configuration file for dnsmasq and a reload of
the service that runs it. Where the settings leave the choice to the system, the resolver is left alone.
-/

namespace Gatehouse.SystemResolver

open Net Host

/-- A way to point the resolver at a name server. -/
inductive Method where
  /-- One file for each domain in this directory. -/
  | directory (folder : Text)
  /-- One configuration file for each domain in this directory, and a command that reloads them. -/
  | dnsmasq (folder : Text) (reload : List Text)
  /-- The resolver is left alone. -/
  | unmanaged

def Method.ofSettings (s : Settings.Dns) : Method :=
  match s.systemResolver with
  | .auto => unmanaged
  | .resolverDirectory => directory s.resolverDirectory
  | .dnsmasq => dnsmasq s.dnsmasqDirectory s.dnsmasqReload
  | .none => unmanaged

def dropInName (domain : Text) : Text := "vipgate-" ++ domain ++ ".conf"

def resolverLines (nameserver : Socket) : Text :=
  "nameserver " ++ nameserver.ip.render ++ "\nport " ++ Text.ofNat nameserver.port ++ "\n"

/-- The line that sends the names of a domain to a name server. -/
def serverLine (domain : Text) (nameserver : Socket) : Text :=
  "server=/" ++ domain ++ "/" ++ nameserver.ip.render ++ "#" ++ Text.ofNat nameserver.port ++ "\n"

/-- A file to write: its folder, what the folder is called in complaints, its name and its content. -/
structure Note where
  folder : Text
  folderKind : Text
  name : Text
  content : Text

def Method.note? (m : Method) (domain : Text) (nameserver : Socket) : Option Note :=
  match m with
  | directory folder => some ⟨folder, "resolver", domain, resolverLines nameserver⟩
  | dnsmasq folder _ => some ⟨folder, "dnsmasq", dropInName domain, serverLine domain nameserver⟩
  | unmanaged => none

def Method.reload : Method → List Text
  | dnsmasq _ reload => reload
  | _ => []

/-- Writes the file of a note, and its folder if need be. -/
def Note.write (n : Note) (fs : Files) (working : Path) : Except Text Unit × Files :=
  match fs.makeFolders working n.folder with
  | (.error e, fs) =>
    (.error ("Failed to create " ++ n.folderKind ++ " directory " ++ n.folder ++ ": " ++ e.text), fs)
  | (.ok (), fs) =>
    let path := Files.joined n.folder n.name
    match fs.write working path (Text.utf8 n.content) with
    | .error e => (.error ("Failed to write " ++ path ++ ": " ++ e.text), fs)
    | .ok fs => (.ok (), fs)

/-- Runs a reload command; the empty command does nothing. -/
def runReload (fs : Files) (working : Path) : List Text → Except Text Unit × Files
  | [] => (.ok (), fs)
  | program :: arguments =>
    let (ending, fs') := Shell.run fs working program arguments
    match Program.start program arguments ending with
    | .error detail => (.error ("Failed to run " ++ program ++ ": " ++ detail), fs)
    | .ok none => (.ok (), fs')
    | .ok (some stderr) =>
      (.error (Text.join " " (program :: arguments) ++ " failed: " ++ stderr), fs')

def Method.configure (m : Method) (fs : Files) (working : Path) (domain : Text) (nameserver : Socket) :
    Except Text Unit × Files :=
  match m.note? domain nameserver with
  | none => (.ok (), fs)
  | some note =>
    match note.write fs working with
    | (.error e, fs) => (.error e, fs)
    | (.ok (), fs) => runReload fs working m.reload

/-- Configures one domain after the other, and tells how each went. -/
def Method.configureAll (m : Method) (fs : Files) (working : Path) :
    List (Text × Socket) → List (Except Text Unit) × Files
  | [] => ([], fs)
  | (domain, nameserver) :: rest =>
    let (result, fs) := m.configure fs working domain nameserver
    let (results, fs) := m.configureAll fs working rest
    (result :: results, fs)

end Gatehouse.SystemResolver
