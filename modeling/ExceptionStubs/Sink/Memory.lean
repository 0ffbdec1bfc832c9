import ExceptionStubs.OrderedMap
import ExceptionStubs.Sink
import ExceptionStubs.Target
/-!
# Artifacts in memory

This sink keeps the texts of the finished artifacts under their qualified names, in the order in
which the names were first finished. It can refuse names that it holds already.
-/

namespace ExceptionStubs

abbrev Shelf := OrderedMap String String

structure Shelf.Writer where
  target : String
  written : ByteArray

namespace Sink

def memory (rejectExisting : Bool) : Sink Shelf Shelf.Writer where
  openTarget package name shelf :=
    match Target.check package name with
    | .error e => (.error e, shelf)
    | .ok () =>
      let target := JavaName.qualify package name
      if rejectExisting && shelf.contains target then (.error (.alreadyExists target), shelf)
      else (.ok ⟨target, .empty⟩, shelf)
  write chunk writer shelf := (.ok { writer with written := writer.written ++ chunk }, shelf)
  finish writer shelf :=
    match String.fromUTF8? writer.written with
    | none => (.error (.io writer.target IoFailure.invalidText.message), shelf)
    | some body => (.ok (), shelf.insert writer.target body)
  abandon _ shelf := shelf
  location? _ := none

end Sink

end ExceptionStubs
