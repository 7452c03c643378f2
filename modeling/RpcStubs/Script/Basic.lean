import RpcStubs.Log.Entry
import RpcStubs.Store.Basic
import RpcStubs.Web.Reply

/-!
# Scripts

A script is a run of the program as data: a sequence of actions on files and on the network, each
followed by what to do with its outcome. What a script does is left to those who carry it out: on a
store it is a function, and the command line carries it out on the files of the computer.
-/

namespace RpcStubs

/-- A sequence of actions that ends in a value. -/
inductive Script (α : Type) where
  | done (value : α)
  | readFile (path : Path) (next : Except FileError ByteArray → Script α)
  | isFolder (path : Path) (next : Bool → Script α)
  | isPresent (path : Path) (next : Bool → Script α)
  | makeFolder (path : Path) (next : Except FileError Unit → Script α)
  | writeFile (path : Path) (content : ByteArray) (next : Except FileError Unit → Script α)
  | renameFile (source destination : Path) (next : Except FileError Unit → Script α)
  | removeFile (path : Path) (next : Except FileError Unit → Script α)
  | request (address : String) (next : Reply → Script α)
  | note (entry : Log.Entry) (next : Unit → Script α)
  | print (text : String) (next : Unit → Script α)

namespace Script

/-- A script followed by another one that depends on its value. -/
def bind {α β : Type} : Script α → (α → Script β) → Script β
  | .done value, f => f value
  | .readFile path next, f => .readFile path fun (r : Except FileError ByteArray) => (next r).bind f
  | .isFolder path next, f => .isFolder path fun (r : Bool) => (next r).bind f
  | .isPresent path next, f => .isPresent path fun (r : Bool) => (next r).bind f
  | .makeFolder path next, f => .makeFolder path fun (r : Except FileError Unit) => (next r).bind f
  | .writeFile path content next, f =>
    .writeFile path content fun (r : Except FileError Unit) => (next r).bind f
  | .renameFile source destination next, f =>
    .renameFile source destination fun (r : Except FileError Unit) => (next r).bind f
  | .removeFile path next, f => .removeFile path fun (r : Except FileError Unit) => (next r).bind f
  | .request address next, f => .request address fun (r : Reply) => (next r).bind f
  | .note entry next, f => .note entry fun (u : Unit) => (next u).bind f
  | .print text next, f => .print text fun (u : Unit) => (next u).bind f

instance : Monad Script where
  pure := .done
  bind := Script.bind

/-! ## Single actions -/

def read (path : Path) : Script (Except FileError ByteArray) :=
  .readFile path .done

/-- Asks whether a path leads to a folder. -/
def folder? (path : Path) : Script Bool :=
  .isFolder path .done

/-- Asks whether a path leads anywhere. -/
def present? (path : Path) : Script Bool :=
  .isPresent path .done

def make (path : Path) : Script (Except FileError Unit) :=
  .makeFolder path .done

def write (path : Path) (content : ByteArray) : Script (Except FileError Unit) :=
  .writeFile path content .done

def rename (source destination : Path) : Script (Except FileError Unit) :=
  .renameFile source destination .done

def remove (path : Path) : Script (Except FileError Unit) :=
  .removeFile path .done

/-- Asks for the document at an address. -/
def ask (address : String) : Script Reply :=
  .request address .done

def log (level : Log.Level) (origin message : String) : Script Unit :=
  .note { level, origin, message } .done

/-- Logs a message that carries further values beside its text. -/
def logWith (values : List String) (level : Log.Level) (origin message : String) : Script Unit :=
  .note { level, origin, message, values } .done

def emit (text : String) : Script Unit :=
  .print text .done

end Script

end RpcStubs
