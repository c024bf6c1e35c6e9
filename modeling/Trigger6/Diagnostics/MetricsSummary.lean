/-
This file embeds the controller's reading of the driver's metrics: the lines it
requires, the counters it takes out of them, and the expression that finds every
fault counter of the text.
-/

import Trigger6.Lib.Regex
import Trigger6.Lib.Text

namespace Trigger6.Diagnostics

open Regex Text

variable (numerals : Numerals)

/-- `.`. -/
def dot (symbol : Char) : Bool := symbol != '\n'

/-- `[01]`. -/
def binary (symbol : Char) : Bool := symbol == '0' || symbol == '1'

/-- `-?\d+`. -/
def signed : Pattern := .seq (.optional (.symbol '-')) (.some numerals.isDigit)

/-- The names of `FAULT_RE`. -/
def faultNames : List (List Char) :=
  ["io_faulted", "io_last_error", "send_errors", "transport_faults", "bulk_errors",
    "bulk_short_writes", "keepalive_errors", "last_error"].map String.toList

/-- `FAULT_RE`. -/
def faultPattern : Pattern :=
  .seq (.anyOf faultNames) (.seq (.symbol '=') (.group (signed numerals)))

/-- `^trigger6 .* io_faulted=\d+ io_last_error=-?\d+$`. -/
def requiredDevice : Pattern :=
  .seq (.literal "trigger6 ".toList) <| .seq (.many dot) <|
  .seq (.literal " io_faulted=".toList) <| .seq (.some numerals.isDigit) <|
  .seq (.literal " io_last_error=".toList) <| .seq (.optional (.symbol '-')) <|
  .seq (.some numerals.isDigit) .lineEnd

/-- `^device .* bulk_errors=\d+ bulk_short_writes=\d+ `. -/
def requiredBulk : Pattern :=
  .seq (.literal "device ".toList) <| .seq (.many dot) <|
  .seq (.literal " bulk_errors=".toList) <| .seq (.some numerals.isDigit) <|
  .seq (.literal " bulk_short_writes=".toList) <| .seq (.some numerals.isDigit) <|
  .literal " ".toList

/-- `^head0 transport=raw connected=\d+ io_faulted=\d+ .* scanout_active=[01] `. -/
def requiredHead : Pattern :=
  .seq (.literal "head0 transport=raw connected=".toList) <| .seq (.some numerals.isDigit) <|
  .seq (.literal " io_faulted=".toList) <| .seq (.some numerals.isDigit) <|
  .seq (.literal " ".toList) <| .seq (.many dot) <|
  .seq (.literal " scanout_active=".toList) <| .seq (.one binary) <| .literal " ".toList

/-- `^head0 .* transport_faults=\d+ `. -/
def requiredQueue : Pattern :=
  .seq (.literal "head0 ".toList) <| .seq (.many dot) <|
  .seq (.literal " transport_faults=".toList) <| .seq (.some numerals.isDigit) <|
  .literal " ".toList

/-- `^head0 sent_frames=\d+ .* send_errors=\d+ .* keepalive_errors=\d+ `. -/
def requiredSent : Pattern :=
  .seq (.literal "head0 sent_frames=".toList) <| .seq (.some numerals.isDigit) <|
  .seq (.literal " ".toList) <| .seq (.many dot) <|
  .seq (.literal " send_errors=".toList) <| .seq (.some numerals.isDigit) <|
  .seq (.literal " ".toList) <| .seq (.many dot) <|
  .seq (.literal " keepalive_errors=".toList) <| .seq (.some numerals.isDigit) <|
  .literal " ".toList

def required : List Pattern :=
  [requiredDevice numerals, requiredBulk numerals, requiredHead numerals, requiredQueue numerals,
    requiredSent numerals]

/-- `^head0 sent_frames=(\d+)`. -/
def sentPattern : Pattern :=
  .seq (.literal "head0 sent_frames=".toList) (.digits numerals)

/-- `^head0 sent_frames=.* keepalive_sent=(\d+)`. -/
def keepalivePattern : Pattern :=
  .seq (.literal "head0 sent_frames=".toList) <| .seq (.many dot) <|
  .seq (.literal " keepalive_sent=".toList) (.digits numerals)

/-- `^device .* bulk_bytes=(\d+)`. -/
def bulkPattern : Pattern :=
  .seq (.literal "device ".toList) <| .seq (.many dot) <|
  .seq (.literal " bulk_bytes=".toList) (.digits numerals)

/-- `^head0 .*scanout_active=1(?: |$)`. -/
def scanoutPattern : Pattern :=
  .seq (.literal "head0 ".toList) <| .seq (.many dot) <|
  .seq (.literal "scanout_active=1".toList) (.alt (.symbol ' ') .lineEnd)

structure MetricsSummary where
  fault : Bool
  scanoutActive : Bool
  sentFrames : Nat
  keepaliveSent : Nat
  bulkBytes : Nat
deriving DecidableEq

/-- The number captured in a match, or zero without one; `none` where it is too long. -/
def captured : Option (List (List Char)) → Option Nat
  | some [digits] => numerals.read digits
  | _ => some 0

/-- Whether some value is not zero; the values behind it are not looked at. -/
def anyNonzero : List (List (List Char)) → Option Bool
  | [value] :: rest => do
    if (← numerals.readInt value) ≠ 0 then return true
    anyNonzero rest
  | _ => some false

/-- `metrics_summary`; `none` where it raises, because a numeral is too long. -/
def metricsSummary (metrics : Option (List Char)) : Option MetricsSummary := do
  let metrics := metrics.getD []
  let valid := (required numerals).all fun pattern => (searchLines pattern metrics).isSome
  let faults := findAll (faultPattern numerals) metrics
  return {
    fault := ← if valid then anyNonzero numerals faults else some true
    scanoutActive := valid && (searchLines scanoutPattern metrics).isSome
    sentFrames := ← captured numerals (searchLines (sentPattern numerals) metrics)
    keepaliveSent := ← captured numerals (searchLines (keepalivePattern numerals) metrics)
    bulkBytes := ← captured numerals (searchLines (bulkPattern numerals) metrics) }

end Trigger6.Diagnostics
