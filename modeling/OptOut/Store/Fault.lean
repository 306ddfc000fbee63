import OptOut.Text.Numeral

/-!
# Failures of a durable store

A call fails because the store cannot be reached or refuses, because the caller stops waiting, or
because the answer makes no sense.
-/

namespace OptOut

/-- A span of time or a moment, in milliseconds. -/
abbrev Millis := UInt64

inductive StoreFault where
  | unavailable (detail : String)
  | timeout (operation : String) (after : Millis)
  | unexpected (detail : String)
deriving DecidableEq, Repr

def StoreFault.message : StoreFault → String
  | unavailable detail => "store unavailable: " ++ detail
  | timeout operation after =>
    "store operation '" ++ operation ++ "' timed out after " ++ Text.decimal after.toNat ++ "ms"
  | unexpected detail => "unexpected store reply: " ++ detail

end OptOut
