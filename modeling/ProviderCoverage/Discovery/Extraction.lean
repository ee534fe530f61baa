import ProviderCoverage.Discovery.Strategies
import ProviderCoverage.Settings.Validation

/-! The entities of a source file: the strategies one after the other, then what the methods of
their types add, without the names that only look like entities. -/

namespace ProviderCoverage

open Go

/-- The state after these strategies. -/
def DiscoveryState.run (f : SourceFile) (s : Settings) (state : DiscoveryState)
    (strategies : List Strategy) : DiscoveryState :=
  strategies.foldl (fun state strategy => state.applyAll (strategy.discover f s)) state

structure Extractor where
  settings : Settings
  nestedSchemas : List Glob

namespace Extractor

def ofSettings (s : Settings) : Except SettingsError Extractor :=
  s.nestedSchemaGlobs.map fun globs => ⟨s, globs⟩

/-- Whether a name is that of a schema within an entity. -/
def isNestedSchema (x : Extractor) (name : String) : Bool :=
  x.nestedSchemas.any (·.accepts name)

/-- Attributes from the `Schema` method of the receiver, if there are none yet. -/
def withAttributes (f : SourceFile) (receiver : Option String) (e : Entity) : Entity :=
  if e.attributes.isEmpty then
    match (receiver.bind (f.method? · "Schema")).bind (·.body) with
    | some body => { e with attributes := Schema.attributes body }
    | none => e
  else e

/-- A resource can be imported if its type, or the type its name suggests, has an `ImportState`
method. -/
def withImport (f : SourceFile) (receiver : Option String) (e : Entity) : Entity :=
  if e.key.kind = .resource && !e.importable then
    let suggested := String.ofList (Naming.titleCase e.key.name.toList) ++ "Resource"
    { e with importable :=
        (f.method? suggested "ImportState").isSome
          || (receiver.bind (f.method? · "ImportState")).isSome }
  else e

def complete (f : SourceFile) (state : DiscoveryState) (e : Entity) : Entity :=
  let receiver := state.receiverOf? e.key
  withImport f receiver (withAttributes f receiver e)

@[simp] theorem complete_key (f : SourceFile) (state : DiscoveryState) (e : Entity) :
    (complete f state e).key = e.key := by
  simp only [complete, withImport, withAttributes]
  repeat' split
  all_goals rfl

/-- The entities of a file that holds no tests, in the order in which they are found. -/
def extract (x : Extractor) (f : SourceFile) : List Entity :=
  let state := DiscoveryState.empty.run f x.settings Strategy.all
  (state.entities.filter (!x.isNestedSchema ·.key.name)).map (complete f state)

end Extractor
end ProviderCoverage
