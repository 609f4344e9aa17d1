import GlBridge.Gl.Arguments
import GlBridge.Text.Blank

/-!
# Functions passed on

Most drawing functions mean the same to an application and to the driver, under the same name.
-/

namespace GlBridge.Gl

/-- The functions passed on that return nothing, by subject: state, queries, clearing and drawing,
buffers and vertex arrays, framebuffers, textures and samplers, shaders and programs, uniforms,
synchronization and feedback, and debug output. -/
def forwardedNames : List Text :=
  [
    "glActiveTexture glBlendColor glBlendEquation glBlendEquationSeparate",
    "glBlendEquationi glBlendFunc glBlendFuncSeparate glBlendFunci glColorMask",
    "glColorMaski glCullFace glDepthFunc glDepthMask glDepthRangef glDisable glDisablei",
    "glEnable glEnablei glFrontFace glHint glLineWidth glPixelStorei glPolygonOffset",
    "glSampleCoverage glScissor glStencilFunc glStencilFuncSeparate glStencilMask",
    "glStencilMaskSeparate glStencilOp glStencilOpSeparate glViewport",

    "glGetBooleanv glGetFloatv glGetInteger64v glGetIntegeri_v glBeginQuery",
    "glDeleteQueries glEndQuery glGenQueries glGetQueryObjectuiv glGetQueryiv",

    "glClear glClearBufferfi glClearBufferfv glClearBufferiv glClearBufferuiv",
    "glClearColor glClearDepthf glClearStencil glDispatchCompute",
    "glDispatchComputeIndirect glDrawArrays glDrawArraysIndirect glDrawArraysInstanced",
    "glDrawElements glDrawElementsIndirect glDrawElementsInstanced glDrawRangeElements",
    "glFinish glFlush glMemoryBarrier glReadBuffer",

    "glBindBuffer glBindBufferBase glBindBufferRange glBindVertexArray glBufferData",
    "glBufferSubData glCopyBufferSubData glDeleteBuffers glDeleteVertexArrays",
    "glDisableVertexAttribArray glEnableVertexAttribArray glFlushMappedBufferRange",
    "glGenVertexArrays glGetBufferPointerv glGetVertexAttribfv glGetVertexAttribiv",
    "glGetVertexAttribPointerv glVertexAttrib1f glVertexAttrib2f glVertexAttrib3f",
    "glVertexAttrib4f glVertexAttrib4fv glVertexAttribDivisor glVertexAttribIPointer",
    "glVertexAttribPointer",

    "glBindFramebuffer glBindRenderbuffer glBlitFramebuffer glDeleteFramebuffers",
    "glDeleteRenderbuffers glFramebufferRenderbuffer glFramebufferTexture2D",
    "glFramebufferTextureLayer glGenFramebuffers glGenRenderbuffers",
    "glGetFramebufferAttachmentParameteriv glInvalidateFramebuffer glRenderbufferStorage",
    "glRenderbufferStorageMultisample",

    "glBindImageTexture glBindSampler glCompressedTexImage2D glCompressedTexSubImage2D",
    "glCopyTexSubImage2D glDeleteSamplers glGenSamplers glGenerateMipmap",
    "glGetTexParameterfv glGetTexParameteriv glSamplerParameterf glSamplerParameterfv",
    "glSamplerParameteri glSamplerParameteriv glTexBuffer glTexImage2D glTexImage3D",
    "glTexParameterf glTexParameterfv glTexParameteri glTexParameteriv glTexStorage2D",
    "glTexStorage3D glTexSubImage2D glTexSubImage3D",

    "glBindAttribLocation glCompileShader glGetActiveAttrib glGetActiveUniform",
    "glGetActiveUniformBlockiv glGetProgramInfoLog glGetShaderInfoLog glGetShaderSource",
    "glGetShaderiv glGetUniformfv glGetUniformiv glProgramParameteri",
    "glTransformFeedbackVaryings glUniformBlockBinding glUseProgram glValidateProgram",

    "glUniform1f glUniform2f glUniform3f glUniform4f glUniform1i glUniform2i glUniform3i",
    "glUniform4i glUniform1ui glUniform2ui glUniform3ui glUniform4ui glUniform1fv",
    "glUniform2fv glUniform3fv glUniform4fv glUniform1iv glUniform2iv glUniform3iv",
    "glUniform4iv glUniform1uiv glUniform2uiv glUniform3uiv glUniform4uiv",
    "glUniformMatrix2fv glUniformMatrix3fv glUniformMatrix4fv glUniformMatrix2x3fv",
    "glUniformMatrix3x2fv glUniformMatrix2x4fv glUniformMatrix4x2fv glUniformMatrix3x4fv",
    "glUniformMatrix4x3fv",

    "glDeleteSync glGetSynciv glWaitSync glBeginTransformFeedback glBindTransformFeedback",
    "glDeleteTransformFeedbacks glEndTransformFeedback glGenTransformFeedbacks",

    "glDebugMessageCallback glDebugMessageControl glObjectLabel glPopDebugGroup",
    "glPushDebugGroup"
  ].flatMap fun line => Text.asciiWords line.toList

/-- The functions passed on that return a number. -/
def forwardedQuestions : List Text :=
  [
    "glIsEnabled glGetError glIsQuery glIsBuffer glIsVertexArray glUnmapBuffer",
    "glCheckFramebufferStatus glIsFramebuffer glIsRenderbuffer glIsTexture",
    "glGetAttribLocation glGetFragDataLocation glGetUniformBlockIndex glIsProgram",
    "glIsShader glClientWaitSync glIsSync"
  ].flatMap fun line => Text.asciiWords line.toList

/-- The functions passed on that return an address or a text. -/
def forwardedMakers : List Text := Text.asciiWords "glGetStringi glFenceSync".toList

/-- The entry points that are only passed on. -/
def forwardedEntryPoints : List EntryPoint :=
  forwardedNames.map (EntryPoint.forwarded .nothing)
    ++ forwardedQuestions.map (EntryPoint.forwarded .number)
    ++ forwardedMakers.map (EntryPoint.forwarded .address)

end GlBridge.Gl
