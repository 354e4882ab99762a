import Piste.Host.Basic
import Piste.Text.Utf8

/-!
# Byte sinks

A place that bytes are written to and that may run full. It takes bytes up to its limit and then
fails.
-/

namespace Piste.Host

/-- A sink and the bytes that it has taken. Without a limit it takes any number. -/
structure Sink where
  limit : Option Nat
  taken : List UInt8
  /-- The error of a write beyond the limit. -/
  full : IoError

namespace Sink

/-- A sink that has taken nothing. -/
def new (limit : Option Nat) (full : IoError) : Sink :=
  { limit, taken := [], full }

/-- Writes a text. If it goes beyond the limit, the bytes up to the limit are taken. -/
def write (text : String) : ExceptT IoError (StateM Sink) Unit := fun sink =>
  let bytes := Text.Utf8.encode text
  match sink.limit with
  | none => (.ok (), { sink with taken := sink.taken ++ bytes })
  | some limit =>
    let room := limit - sink.taken.length
    let result := if bytes.length ≤ room then .ok () else .error sink.full
    (result, { sink with taken := sink.taken ++ bytes.take room })

/-- The sink as a writer. It holds nothing back. -/
def writer : Writer (StateM Sink) where
  write := write
  flush := pure ()

end Sink

end Piste.Host
