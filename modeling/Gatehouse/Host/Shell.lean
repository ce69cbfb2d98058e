import Gatehouse.Host.Printf
import Gatehouse.Host.Touch

/-!
A few programs of the host, enough to reload a service with: `true`, `false`, `touch`, `echo`, `printf`,
and a shell that runs lists of such commands.
-/

namespace Gatehouse.Host.Shell

/-- What a program has done: its exit status, what it wrote to its error stream, and the files after it. -/
structure Done where
  status : Nat
  stderr : Bytes
  files : Files

/-- A program other than the shell, if it is there; `loud` sends its output to the error stream. -/
def runSimple? (fs : Files) (working : Path) (loud : Bool) (program : Text) (arguments : List Text) :
    Option Done :=
  let say (output : Bytes) : Done := ⟨0, if loud then output else [], fs⟩
  if program = "true" ∨ program = ":" then some (say [])
  else if program = "false" then some ⟨1, [], fs⟩
  else if program = "touch" then
    let touched := Touch.run fs working arguments
    some ⟨if touched.1 = [] then 0 else 1, Text.utf8 touched.1, touched.2⟩
  else if program = "echo" then some (say (Printf.echo arguments))
  else if program = "printf" then some (say (Printf.printf (arguments.headD []) arguments.tail))
  else none

/-! ## Scripts -/

/-- When a command of a list runs: always, or only after the one before it succeeded or failed. -/
inductive Joint where
  | always
  | ifDone
  | ifFailed
  deriving DecidableEq

/-- A piece of a script. -/
inductive Token where
  | word (t : Text)
  | joint (j : Joint)
  | loud
  deriving DecidableEq

/-- Where the reading of a script stands: outside of quotes, within them, or in a comment. -/
inductive Place where
  | plain
  | single
  | double
  | comment
  deriving DecidableEq

/-- How the reading of a script goes on: the place, the word so far, if one has begun, and how many characters
are read already. -/
structure Scan where
  place : Place
  word : Option Text
  skip : Nat

namespace Scan

def closed (s : Scan) : List Token := s.word.elim [] fun w => [.word w]

def grown (s : Scan) (t : Text) (skip : Nat) : Scan := { s with word := some (s.word.getD [] ++ t), skip }

def fresh (skip : Nat) : Scan := ⟨.plain, none, skip⟩

/-- The characters that a backslash frees of their meaning between double quotes. -/
def freed : List Char := ['$', Char.ofNat 0x60, '"', '\\']

/-- Reads one character outside of quotes, where `rest` follows. -/
def stepPlain (s : Scan) (c : Char) (rest : Text) : List Token × Scan :=
  match c, rest with
  | '\\', d :: _ => ([], s.grown [d] 1)
  | '\'', _ => ([], { s.grown [] 0 with place := .single })
  | '"', _ => ([], { s.grown [] 0 with place := .double })
  | '>', '&' :: '2' :: _ => ((if s.word = some ['1'] then [] else s.closed) ++ [.loud], fresh 2)
  | '&', '&' :: _ => (s.closed ++ [.joint .ifDone], fresh 1)
  | '|', '|' :: _ => (s.closed ++ [.joint .ifFailed], fresh 1)
  | _, _ =>
    if c = ';' ∨ c = '\n' then (s.closed ++ [.joint .always], fresh 0)
    else if c = ' ' ∨ c = '\t' then (s.closed, fresh 0)
    else if c = '#' ∧ s.word = none then ([], { s with place := .comment })
    else ([], s.grown [c] 0)

def step (s : Scan) (c : Char) (rest : Text) : List Token × Scan :=
  match s.skip, s.place with
  | skip + 1, _ => ([], { s with skip })
  | 0, .plain => s.stepPlain c rest
  | 0, .single => ([], if c = '\'' then { s with place := .plain } else s.grown [c] 0)
  | 0, .double =>
    if c = '"' then ([], { s with place := .plain })
    else if c = '\\' ∧ rest.head?.any freed.contains then ([], s.grown (rest.take 1) 1)
    else ([], s.grown [c] 0)
  | 0, .comment => if c = '\n' then ([.joint .always], fresh 0) else ([], s)

def tokens (s : Scan) : Text → List Token
  | [] => s.closed
  | c :: rest =>
    let (found, s) := s.step c rest
    found ++ s.tokens rest

end Scan

/-- A command of a list: when it runs, its words, and whether its output goes to the error stream. -/
structure Command where
  joint : Joint
  words : List Text
  loud : Bool

def commands (joint : Joint) (words : List Text) (loud : Bool) : List Token → List Command
  | [] => [⟨joint, words, loud⟩]
  | .word w :: rest => commands joint (words ++ [w]) loud rest
  | .loud :: rest => commands joint words true rest
  | .joint j :: rest => ⟨joint, words, loud⟩ :: commands j [] false rest

/-- Whether a command runs after one with this exit status. -/
def Joint.holds (j : Joint) (status : Nat) : Bool :=
  match j with
  | always => true
  | ifDone => status == 0
  | ifFailed => status != 0

def complaint (program text : Text) : Bytes := Text.utf8 ("sh: 1: " ++ program ++ ": " ++ text ++ "\n")

def runAll (working : Path) (before : Done) : List Command → Done
  | [] => before
  | command :: rest =>
    if command.joint.holds before.status then
      match command.words with
      | [] => runAll working before rest
      | program :: arguments =>
        if program = "exit" then
          match arguments with
          | [] => before
          | status :: _ =>
            match Text.decimal? status with
            | some n => { before with status := n % 256 }
            | none =>
              let text := "Illegal number: " ++ status
              ⟨2, before.stderr ++ complaint program text, before.files⟩
        else
          match runSimple? before.files working command.loud program arguments with
          | some done => runAll working { done with stderr := before.stderr ++ done.stderr } rest
          | none =>
            runAll working ⟨127, before.stderr ++ complaint program "not found", before.files⟩ rest
    else runAll working before rest

/-! ## Programs -/

def programFolders : List Text := ["/usr/bin/", "/bin/"]

/-- The name of a program without the folder where the host keeps it. -/
def plainName (program : Text) : Text :=
  ((programFolders.filterMap fun folder => Text.after? folder program).head?).getD program

def deniedText : Text := "Permission denied (os error 13)"

/-- Why a program cannot be started that is none of those here: no file of the others may be run. -/
def refusal (fs : Files) (working : Path) (program : Text) : Program.Ending :=
  if program = "." ∨ program = ".." then .refused deniedText
  else if program.contains '/' then
    match fs.openFor working program with
    | .ok _ => .refused deniedText
    | .error e => .refused e.text
  else if Files.maxNameLength < Text.byteLength program then .refused Files.Fault.nameTooLong.text
  else .missing

/-- Runs a program, if it is there. -/
def run (fs : Files) (working : Path) (program : Text) (arguments : List Text) :
    Program.Ending × Files :=
  let name := plainName program
  let done :=
    match arguments with
    | flag :: script :: _ =>
      if name = "sh" ∧ flag = "-c" then
        some (runAll working ⟨0, [], fs⟩ (commands .always [] false ((Scan.fresh 0).tokens script)))
      else runSimple? fs working false name arguments
    | _ => runSimple? fs working false name arguments
  match done with
  | none => (refusal fs working program, fs)
  | some done => (if done.status = 0 then .succeeded else .failed done.stderr, done.files)

end Gatehouse.Host.Shell
