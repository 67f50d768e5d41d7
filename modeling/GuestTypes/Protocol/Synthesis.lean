import GuestTypes.Protocol.Initialisation

/-!
# Synthesizing classes

From a frozen specification to a new host class: a name is issued, the body assembled, its
listing written if listings are wanted, and the class defined. Every request makes a new
class; whoever wants equal specifications to share one keeps the classes by shape.
-/

namespace GuestTypes

namespace LoaderId

variable {σ : Type}

/-- The host class of a body whose layout is known. -/
def hostClass (body : ClassBody) (layout : Layout) : HostClass :=
  { name := body.name
    superclass := some body.base
    interfaces := body.interfaces
    layout := some layout }

/-- Define the class of a body. -/
def define (loader : LoaderId) (body : ClassBody) : Request σ ClassId := do
  match <- Request.observe fun store => body.verify store.hierarchy with
  | .error defect => throw (.internal (.found (.malformedBody body.name defect)))
  | .ok layout =>
      if !(<- Request.perform (.loader loader (.claim body.name))) then
        throw (.internal (.found (.duplicateClass body.name)))
      Request.perform (.declare (hostClass body layout))

end LoaderId

namespace SynthesizerId

variable {σ α : Type}

/-- Look at the synthesizer. -/
def view (synthesizer : SynthesizerId) (view : Synthesizer -> α) : Request σ α :=
  Request.observe fun store => view (store.synthesizer synthesizer)

/-- A simple class name that was not issued for the base before. -/
def uniqueName (synthesizer : SynthesizerId) (base : String) : Request σ String := do
  let number <- Request.perform (.synthesizer synthesizer (.issue base))
  synthesizer.view (·.config.simpleClassName base number.toNat)

/-- The name of the file that holds the listing of a body. -/
def listingPath (directory : String) (body : ClassBody) : String :=
  Path.join directory (body.simpleName ++ ".class.txt")

/-- Write the listing of a body into a directory. -/
def writeListing (directory : String) (body : ClassBody) : Request σ Unit := do
  let path := listingPath directory body
  let refuse (problem : FileProblem) : Request σ Unit :=
    throw (.internal (.found (.unwrittenListing path problem)))
  match <- Request.perform (.makeDirectories directory) with
  | .error problem => refuse problem
  | .ok _ =>
      let text <- Request.observe fun store => body.listing store.hierarchy ++ "\n"
      match <- Request.perform (.writeFile path text) with
      | .error problem => refuse problem
      | .ok _ => return ()

/-- Synthesize a class for a frozen specification. -/
def synthesize (synthesizer : SynthesizerId) (spec : Specification) : Request σ ClassId := do
  if !spec.isFrozen then throw (.internal (.found (.unfrozen spec.name)))
  let simple <- synthesizer.uniqueName (<- Request.observe (·.hierarchy.simpleName spec.base))
  let name <- synthesizer.view (·.config.className simple)
  Request.perform (.record (.classBegun name spec))
  let body := ClassBody.realise name spec
  if let some directory <- synthesizer.view (·.dumpDirectory) then
    writeListing directory body
  (<- synthesizer.view (·.loader)).define body

/-- Make a synthesizer with a loader of its own. -/
def make (config : Configuration) : Request σ SynthesizerId := do
  match config.validate with
  | .error problem => throw (.configuration (.found problem))
  | .ok _ =>
      Request.perform (.record (.synthesizerMade config.package))
      Request.perform (.addSynthesizer config (<- Request.perform .addLoader))

end SynthesizerId

end GuestTypes
