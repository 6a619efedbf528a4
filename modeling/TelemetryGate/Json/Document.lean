import TelemetryGate.Json.Reader

/-!
# JSON documents

Reading a whole value from JSON text. At most 127 brackets may be open at once, and the last of
several members with one key counts.
-/

namespace TelemetryGate.Json.Reader

/-- Read a value in which at most `depth` brackets are open at once, with numbers valued in some
way. -/
def valueBy (valued : Valuation) : Nat → Reader Value
  | 0 => failAhead .tooDeep
  | depth + 1 => atValue fun c =>
    if c = 'n' then do
      wordFrom "ull"
      pure .null
    else if c = 't' then do
      wordFrom "rue"
      pure (.bool true)
    else if c = 'f' then do
      wordFrom "alse"
      pure (.bool false)
    else if c = '"' then do
      advance
      Value.text <$> stringBody
    else if c = '-' ∨ c.isDigit then numberBy valued
    else if c = '[' then
      if depth = 0 then failAhead .tooDeep
      else do
        advance
        let n ← bound
        let items ← foldItems (fun acc => do
          let v ← valueBy valued depth
          pure (v :: acc)) n true []
        pure (.array items.reverse)
    else if c = '\x7b' then
      if depth = 0 then failAhead .tooDeep
      else do
        advance
        let n ← bound
        let members ← foldMembers (fun acc key => do
          colon
          let v ← valueBy valued depth
          pure (Entries.put key v acc)) n true []
        pure (.object members)
    else failAhead .expectedValue

/-- The reader of a whole document. -/
def document (valued : Valuation) : Reader Value := whole (valueBy valued 128)

end TelemetryGate.Json.Reader

namespace TelemetryGate.Json

/-- The value of a JSON document in which numbers are valued in some way. -/
def Value.ofTextBy (valued : Valuation) (source : String) : Except Fault Value :=
  (Reader.document valued).run source

/-- The value of a JSON document. -/
def Value.ofText (source : String) : Except Fault Value := ofTextBy Numeral.value source

end TelemetryGate.Json
