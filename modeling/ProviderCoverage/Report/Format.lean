import ProviderCoverage.Report.Structured
import ProviderCoverage.Report.Terminal
import ProviderCoverage.Unicode.Case

/-! The formats in which an analysis is reported. -/

namespace ProviderCoverage.Report

inductive Format where
  | terminal
  | structured
deriving DecidableEq

/-- A format by its name, whose case does not matter. -/
def Format.ofName? (name : String) : Option Format :=
  match String.ofList (name.toList.flatMap Unicode.lowercase) with
  | "text" => some .terminal
  | "json" => some .structured
  | _ => none

def render (a : Analysis) (f : Format) (o : Options) : String :=
  match f with
  | .terminal => Terminal.render a o
  | .structured => Structured.render a

end ProviderCoverage.Report
