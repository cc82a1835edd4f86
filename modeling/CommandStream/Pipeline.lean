import CommandStream.Descriptor.Range
import CommandStream.Total
/-!
# Pipelines and their root layouts

Of a pipeline, replay needs its bind point and its root layout alone: together they decide which
call sets the argument of a root slot. What the pipeline computes has no place here.
-/

namespace CommandStream

/-- The pipeline family, which selects the calls that set root arguments. -/
inductive BindPoint
  | graphics
  | compute
  deriving DecidableEq, Repr

instance : WireEnumeration BindPoint where
  all := [.graphics, .compute]
  name
    | .graphics => "Graphics"
    | .compute => "Compute"
  mem_all value := by cases value <;> decide
  code
    | .graphics => 0
    | .compute => 1
  codes_nodup := by decide

/-- The view through which a root descriptor reaches a buffer. -/
inductive RootDescriptorKind
  | constantBuffer
  | shaderResource
  | unorderedAccess
  deriving DecidableEq, Repr

instance : Enumeration RootDescriptorKind where
  all := [.constantBuffer, .shaderResource, .unorderedAccess]
  name
    | .constantBuffer => "ConstantBuffer"
    | .shaderResource => "ShaderResource"
    | .unorderedAccess => "UnorderedAccess"
  mem_all value := by cases value <;> decide

/-- What a root slot accepts. -/
inductive RootParameter
  /-- Inline words. -/
  | constants (count : Nat)
  /-- A buffer bound by its address. -/
  | descriptor (kind : RootDescriptorKind)
  /-- A range of descriptors of one heap. -/
  | table (heap : HeapType)
  deriving DecidableEq, Repr

/-- The root space that a parameter takes, in words. -/
def RootParameter.cost : RootParameter → Nat
  | .constants count => count
  | .descriptor _ => 2
  | .table _ => 1

/-- A pipeline: its label, where it binds, and its root layout by slot. -/
structure PipelineDescription where
  label : Option String
  bindPoint : BindPoint
  rootLayout : List RootParameter
  deriving DecidableEq, Repr

namespace PipelineDescription

/-- The root space that a pipeline has at most, in words. -/
def rootCostMax : Nat := 64

/-- The root space that the pipeline takes, in words. -/
def rootCost (pipeline : PipelineDescription) : Nat :=
  total (pipeline.rootLayout.map RootParameter.cost)

end PipelineDescription

end CommandStream
