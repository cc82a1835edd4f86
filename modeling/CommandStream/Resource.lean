import CommandStream.FlagSet
import CommandStream.Handle
/-!
# Resources and their descriptions

What a caller says when it creates a buffer, a texture or a sampler, the states a resource moves
through on the device, and the views that a descriptor slot can hold.
-/

namespace CommandStream

/-- A 32-bit floating point number by its bit pattern. Nothing here computes with one, so every
pattern is kept as it is, that of a NaN included. -/
structure FloatBits where
  bits : UInt32
  deriving DecidableEq, Repr

namespace FloatBits

/-- The number zero. -/
def zero : FloatBits := ⟨0⟩

/-- The number one. -/
def one : FloatBits := ⟨0x3F800000⟩

end FloatBits

/-- The states a resource can be in on the device, as flags: vertex and constant buffer, index
buffer, render target, unordered access, depth write and read, shader resource outside and
inside the pixel shader, indirect argument, copy destination and copy source. -/
abbrev ResourceState := FlagSet 0xEFF

/-- What a buffer is made for, as flags: transfer source and destination, vertex, index,
constant, storage and indirect. -/
abbrev BufferUsage := FlagSet 0x7F

/-- What a texture is made for, as flags: transfer source and destination, sampled, storage,
color attachment and depth-stencil attachment. -/
abbrev TextureUsage := FlagSet 0x3F

/-- The texel formats that every device understands. -/
inductive TexelFormat
  | r8Unorm
  | rgba8Unorm
  | rgba8Srgb
  | bgra8Unorm
  | rgba16Float
  | r32Float
  | rgba32Float
  | d32Float
  | d24UnormS8Uint
  deriving DecidableEq, Repr

instance : Enumeration TexelFormat where
  all := [.r8Unorm, .rgba8Unorm, .rgba8Srgb, .bgra8Unorm, .rgba16Float, .r32Float, .rgba32Float,
    .d32Float, .d24UnormS8Uint]
  name
    | .r8Unorm => "R8Unorm"
    | .rgba8Unorm => "Rgba8Unorm"
    | .rgba8Srgb => "Rgba8Srgb"
    | .bgra8Unorm => "Bgra8Unorm"
    | .rgba16Float => "Rgba16Float"
    | .r32Float => "R32Float"
    | .rgba32Float => "Rgba32Float"
    | .d32Float => "D32Float"
    | .d24UnormS8Uint => "D24UnormS8Uint"
  mem_all value := by cases value <;> decide

/-- Whether the format holds depth, with or without a stencil. -/
def TexelFormat.isDepth : TexelFormat → Bool
  | .d32Float | .d24UnormS8Uint => true
  | _ => false

/-- The bytes that one texel takes. -/
def TexelFormat.texelSize : TexelFormat → Nat
  | .r8Unorm => 1
  | .rgba8Unorm | .rgba8Srgb | .bgra8Unorm | .r32Float | .d32Float | .d24UnormS8Uint => 4
  | .rgba16Float => 8
  | .rgba32Float => 16

/-- A buffer of `size` bytes. -/
structure BufferDescription where
  size : UInt64
  usage : BufferUsage
  deriving DecidableEq, Repr

/-- A texture; `depthOrLayers` is the depth of a volume or the number of layers of an array. -/
structure TextureDescription where
  width : Nat
  height : Nat
  depthOrLayers : Nat
  levels : Nat
  samples : Nat
  format : TexelFormat
  usage : TextureUsage
  deriving DecidableEq, Repr

/-- How a texture is filtered; anisotropic filtering has a degree. -/
inductive Filter
  | nearest
  | linear
  | anisotropic (degree : Nat)
  deriving DecidableEq, Repr

/-- The text of a filter. -/
def Filter.describe : Filter → String
  | .nearest => "Nearest"
  | .linear => "Linear"
  | .anisotropic degree => s!"Anisotropic({degree})"

/-- What a texture coordinate outside the unit interval means. -/
inductive WrapMode
  | tile
  | mirror
  | clamp
  | border
  deriving DecidableEq, Repr

instance : Enumeration WrapMode where
  all := [.tile, .mirror, .clamp, .border]
  name
    | .tile => "Tile"
    | .mirror => "Mirror"
    | .clamp => "Clamp"
    | .border => "Border"
  mem_all value := by cases value <;> decide

/-- A sampler, with a wrap mode for each of the three axes. -/
structure SamplerDescription where
  filter : Filter
  wrapU : WrapMode
  wrapV : WrapMode
  wrapW : WrapMode
  lodBias : FloatBits
  deriving DecidableEq, Repr

/-- What a descriptor slot is filled with. Sources name resources by `Handle`; once resolved,
the same views name them by the identity of the object. -/
inductive DescriptorView (α : Type)
  | constantBuffer (buffer : α) (offset size : UInt64)
  | bufferShaderResource (buffer : α)
  | bufferUnorderedAccess (buffer : α)
  | textureShaderResource (texture : α)
  | textureUnorderedAccess (texture : α)
  | sampler (sampler : α)
  deriving DecidableEq, Repr

end CommandStream
