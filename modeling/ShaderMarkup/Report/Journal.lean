import ShaderMarkup.Text.Basic

/-!
# Journals

A computation that writes a log as it goes.  What was written before a failure stays written, so
the log stands beside the result and not inside it.
-/

namespace ShaderMarkup

/-- How serious a log entry is. -/
inductive LogLevel where
  | warning
  | error
deriving DecidableEq

/-- An entry of the log. -/
structure LogEntry where
  level : LogLevel
  message : Text
deriving DecidableEq

/-- A result, or what failed, with the log entries written on the way. -/
structure Journal (ε α : Type) where
  entries : List LogEntry
  result : Except ε α

namespace Journal

variable {ε δ α β : Type}

/-- A result with nothing written. -/
def ofExcept (result : Except ε α) : Journal ε α :=
  ⟨[], result⟩

/-- Writes entries. -/
def write (entries : List LogEntry) : Journal ε Unit :=
  ⟨entries, .ok ()⟩

/-- Goes on with a result; after a failure nothing more is written. -/
def andThen (first : Journal ε α) (next : α → Journal ε β) : Journal ε β :=
  match first.result with
  | .error failure => ⟨first.entries, .error failure⟩
  | .ok value =>
      let second := next value
      ⟨first.entries ++ second.entries, second.result⟩

instance : Monad (Journal ε) where
  pure value := ofExcept (.ok value)
  bind := andThen

end Journal

end ShaderMarkup
