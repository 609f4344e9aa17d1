/-!
# Enumerants

The numbers that stand for targets, queries and bits in drawing calls, by name.
-/

namespace GlBridge.Gl.Enumerant

/-! ## Texture targets and what asks for the texture bound to them -/

def texture1D : Nat := 0x0DE0

def texture2D : Nat := 0x0DE1

def texture3D : Nat := 0x806F

def textureCubeMap : Nat := 0x8513

def texture2DArray : Nat := 0x8C1A

def textureBuffer : Nat := 0x8C2A

def textureCubeMapArray : Nat := 0x9009

def texture2DMultisample : Nat := 0x9100

def texture2DMultisampleArray : Nat := 0x9102

def textureBinding2D : Nat := 0x8069

def textureBinding3D : Nat := 0x806A

def textureBindingCubeMap : Nat := 0x8514

def textureBinding2DArray : Nat := 0x8C1D

def textureBindingBuffer : Nat := 0x8C2C

def textureBindingCubeMapArray : Nat := 0x900A

def textureBinding2DMultisample : Nat := 0x9104

def textureBinding2DMultisampleArray : Nat := 0x9105

/-- The first texture unit; the others follow it. -/
def texture0 : Nat := 0x84C0

/-- Asks for the active texture unit. -/
def activeTexture : Nat := 0x84E0

/-! ## Buffers -/

def copyReadBuffer : Nat := 0x8F36

def copyWriteBuffer : Nat := 0x8F37

def pixelPackBuffer : Nat := 0x88EB

def pixelPackBufferBinding : Nat := 0x88ED

def bufferSize : Nat := 0x8764

def staticDraw : Nat := 0x88E4

def readOnly : Nat := 0x88B8

def writeOnly : Nat := 0x88B9

def readWrite : Nat := 0x88BA

def mapReadBit : Nat := 0x0001

def mapWriteBit : Nat := 0x0002

def mapPersistentBit : Nat := 0x0040

def mapCoherentBit : Nat := 0x0080

/-! ## Framebuffers and pixels -/

def readFramebuffer : Nat := 0x8CA8

def readFramebufferBinding : Nat := 0x8CAA

def rgba : Nat := 0x1908

def unsignedByte : Nat := 0x1401

def back : Nat := 0x0405

/-! ## Programs -/

def currentProgram : Nat := 0x8B8D

def linkStatus : Nat := 0x8B82

def programBinaryLength : Nat := 0x8741

def programBinaryRetrievableHint : Nat := 0x8257

/-! ## Strings and versions -/

def vendor : Nat := 0x1F00

def renderer : Nat := 0x1F01

def version : Nat := 0x1F02

def shadingLanguageVersion : Nat := 0x8B8C

def majorVersion : Nat := 0x821B

def minorVersion : Nat := 0x821C

def contextProfileMask : Nat := 0x9126

/-- The version of drawing calls that the platform is asked for. -/
def glesApi : Nat := 0x30A0

end GlBridge.Gl.Enumerant
