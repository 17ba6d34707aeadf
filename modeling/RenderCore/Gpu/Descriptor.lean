namespace RenderCore

inductive DescriptorType where
  | sampler
  | combinedImageSampler
  | sampledImage
  | storageImage
  | uniformTexelBuffer
  | storageTexelBuffer
  | uniformBuffer
  | storageBuffer
deriving DecidableEq, Inhabited

namespace DescriptorType

def raw : DescriptorType → UInt32
  | .sampler => 0
  | .combinedImageSampler => 1
  | .sampledImage => 2
  | .storageImage => 3
  | .uniformTexelBuffer => 4
  | .storageTexelBuffer => 5
  | .uniformBuffer => 6
  | .storageBuffer => 7

def name : DescriptorType → String
  | .sampler => "Sampler"
  | .combinedImageSampler => "CombinedImageSampler"
  | .sampledImage => "SampledImage"
  | .storageImage => "StorageImage"
  | .uniformTexelBuffer => "UniformTexelBuffer"
  | .storageTexelBuffer => "StorageTexelBuffer"
  | .uniformBuffer => "UniformBuffer"
  | .storageBuffer => "StorageBuffer"

def all : List DescriptorType :=
  [.sampler, .combinedImageSampler, .sampledImage, .storageImage, .uniformTexelBuffer,
   .storageTexelBuffer, .uniformBuffer, .storageBuffer]

def ofName? (s : String) : Option DescriptorType :=
  all.find? (·.name == s)

end DescriptorType

inductive Resource where
  | buffer (raw offset range : UInt64)
  | image (raw : UInt64)
  | sampler (raw : UInt64)
  | combined (image sampler : UInt64)
deriving DecidableEq, Inhabited

namespace Resource

def fits : Resource → DescriptorType → Bool
  | .buffer .., ty =>
    ty == .uniformBuffer || ty == .storageBuffer || ty == .uniformTexelBuffer ||
      ty == .storageTexelBuffer
  | .image _, ty => ty == .sampledImage || ty == .storageImage
  | .sampler _, ty => ty == .sampler
  | .combined .., ty => ty == .combinedImageSampler

def debugText : Resource → String
  | .buffer raw offset range =>
    s!"Buffer \x7b raw: {raw}, offset: {offset}, range: {range} \x7d"
  | .image raw => s!"Image \x7b raw: {raw} \x7d"
  | .sampler raw => s!"Sampler \x7b raw: {raw} \x7d"
  | .combined img smp => s!"CombinedImageSampler \x7b image: {img}, sampler: {smp} \x7d"

end Resource

structure PoolSize where
  type : DescriptorType
  count : UInt32
deriving DecidableEq, Inhabited

namespace PoolSize

def debugText (p : PoolSize) : String :=
  s!"PoolSize \x7b descriptor_type: {p.type.name}, count: {p.count} \x7d"

def listText (ps : List PoolSize) : String :=
  "[" ++ ", ".intercalate (ps.map debugText) ++ "]"

end PoolSize

end RenderCore
