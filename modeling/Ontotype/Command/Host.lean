import Ontotype.Command.Disk

set_option autoImplicit false

/-! # The surroundings of a run

A run reads one file, may create another one, and writes to it or to the standard streams. A `Host`
offers these operations in some monad. `World` is a host that is a value: a disk, and what has been
written to the streams; what a run does to its surroundings is then a function of them. -/

namespace Ontotype.Command

/-- The operations that a run may ask for. A refusal comes with its reason. -/
structure Host (m : Type → Type) where
  /-- The bytes of a file. -/
  read : String → m (Except String (List UInt8))
  /-- Creates a file, or empties one. -/
  create : String → m (Except String Unit)
  /-- Writes text behind what a created file holds. -/
  append : String → String → m Unit
  /-- Writes to the standard output. -/
  out : String → m Unit
  /-- Writes to the standard error stream. -/
  err : String → m Unit

/-- Files and streams as values. -/
structure World where
  disk : Disk
  out : String := ""
  /-- Without the lines that a run logs. -/
  err : String := ""

namespace World

/-- Writes text behind what is at the end of a path. -/
def append (w : World) (path text : String) : World :=
  match w.disk.find? path with
  | some .standardOutput => { w with out := w.out ++ text }
  | some .standardError => { w with err := w.err ++ text }
  | _ => { w with disk := w.disk.append path text.toUTF8.toList }

/-- The host that a world is. -/
def host : Host (StateM World) where
  read path := fun w => ((w.disk.read path).mapError Refusal.message, w)
  create path := fun w =>
    match w.disk.create path with
    | .ok disk => (.ok (), { w with disk })
    | .error e => (.error e.message, w)
  append path text := fun w => ((), w.append path text)
  out text := fun w => ((), { w with out := w.out ++ text })
  err text := fun w => ((), { w with err := w.err ++ text })

end World

end Ontotype.Command
