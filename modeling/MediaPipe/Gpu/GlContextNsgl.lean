import MediaPipe.Status

/-!
# `GlContext` on macOS

`gl_context_nsgl.cc`.  `CreateContext` asks Cocoa for an accelerated pixel format and falls
back to one without acceleration; with a format it asks for a context sharing
`share_context`, and falls back to the format of the share context; then it makes the
texture cache.  The Cocoa, CGL and CoreVideo calls are answered by an `NsglEnv`, in which
`nil` is `none`.  Whatever they answer, `CreateContext` returns OK or one of its three
errors, a `GlContext` that `Create` returns has an `NSOpenGLContext` and a texture cache,
and once its own binding is set, it is current.
-/

namespace MediaPipe.Gpu

/-- The `NSOpenGLPixelFormatAttribute` values `CreateContext` uses. -/
inductive PixelFormatAttribute where
  | accelerated
  | colorSize
  | alphaSize
  | depthSize
  | value (n : Nat)
  deriving DecidableEq, Repr

/-- `attrs`, without its terminating 0. -/
def pixelFormatAttributes : List PixelFormatAttribute :=
  [.accelerated, .colorSize, .value 24, .alphaSize, .value 8, .depthSize, .value 16]

/-- `attrs_no_accel`, without its terminating 0. -/
def pixelFormatAttributesNoAccel : List PixelFormatAttribute :=
  [.colorSize, .value 24, .alphaSize, .value 8, .depthSize, .value 16]

/-- What Cocoa, CGL and CoreVideo answer, by object handles.  `pixelFormatOfContext` is
the format `initWithCGLPixelFormatObj` makes from `CGLGetPixelFormat` of the context's
`CGLContextObj`; `textureCacheCreate` gives the cache, or `none` when
`CVOpenGLTextureCacheCreate` does not return `kCVReturnSuccess`. -/
structure NsglEnv where
  pixelFormatWithAttributes : List PixelFormatAttribute → Option Nat
  contextWithFormat : Option Nat → Option Nat → Option Nat
  pixelFormatOfContext : Option Nat → Option Nat
  textureCacheCreate : Nat → Option Nat → Option Nat

structure GlContext where
  pixelFormat : Option Nat
  context : Option Nat
  textureCache : Option Nat
  deriving DecidableEq, Repr

/-- `new GlContext()`. -/
def GlContext.empty : GlContext := ⟨none, none, none⟩

def pixelFormatMessage : String := "Could not create an NSOpenGLPixelFormat"

def contextMessage : String := "RET_CHECK failure: context_ Could not create an NSOpenGLContext"

def textureCacheMessage : String :=
  "RET_CHECK failure: err == kCVReturnSuccess Error at CVOpenGLTextureCacheCreate"

/-- The pixel format and context `CreateContext` goes on with: the context made with
`format`, or else the one made with the format of the share context. -/
def NsglEnv.makeContext (env : NsglEnv) (shareContext : Option Nat) (format : Nat) :
    Option Nat × Option Nat :=
  match env.contextWithFormat (some format) shareContext with
  | some context => (some format, some context)
  | none =>
      let queried := env.pixelFormatOfContext shareContext
      (queried, env.contextWithFormat queried shareContext)

/-- `CreateContext`: `pixel_format_` and `context_` keep what was made before a check
failed. -/
def GlContext.createContext (env : NsglEnv) (shareContext : Option Nat) (gl : GlContext) :
    Status × GlContext :=
  match (env.pixelFormatWithAttributes pixelFormatAttributes).or
      (env.pixelFormatWithAttributes pixelFormatAttributesNoAccel) with
  | none => (internalError pixelFormatMessage, { gl with pixelFormat := none })
  | some format =>
      match env.makeContext shareContext format with
      | (pixelFormat, none) =>
          (internalError contextMessage, { gl with pixelFormat := pixelFormat, context := none })
      | (pixelFormat, some context) =>
          match env.textureCacheCreate context pixelFormat with
          | none => (internalError textureCacheMessage,
              { gl with pixelFormat := pixelFormat, context := some context })
          | some cache => (okStatus, { gl with
              pixelFormat := pixelFormat, context := some context, textureCache := some cache })

/-- `Create(share_context, create_thread)`; `finishInitialization` is
`FinishInitialization`, which is not in this file. -/
def GlContext.create (env : NsglEnv) (finishInitialization : GlContext → Bool → Status)
    (shareContext : Option Nat) (createThread : Bool) : Except Status GlContext :=
  let created := GlContext.empty.createContext env shareContext
  if !created.1.ok then .error created.1
  else
    let finished := finishInitialization created.2 createThread
    if !finished.ok then .error finished else .ok created.2

/-- `Create(nullptr, create_thread)`. -/
def GlContext.createUnshared (env : NsglEnv) (finishInitialization : GlContext → Bool → Status)
    (createThread : Bool) : Except Status GlContext :=
  GlContext.create env finishInitialization none createThread

/-- `Create(const GlContext& share_context, create_thread)`. -/
def GlContext.createSharing (env : NsglEnv) (finishInitialization : GlContext → Bool → Status)
    (share : GlContext) (createThread : Bool) : Except Status GlContext :=
  GlContext.create env finishInitialization share.context createThread

/-! ## Bindings -/

structure ContextBinding where
  contextObject : Option GlContext
  context : Option Nat

def GlContext.thisContextBinding (gl : GlContext) : ContextBinding := ⟨some gl, gl.context⟩

/-- `GetCurrentContextBinding` writes only the context of `binding`. -/
def getCurrentContextBinding (currentContext : Option Nat) (binding : ContextBinding) :
    ContextBinding :=
  { binding with context := currentContext }

/-- `SetCurrentContextBinding`: its status and the thread's new current `NSOpenGLContext`. -/
def setCurrentContextBinding (newBinding : ContextBinding) : Status × Option Nat :=
  match newBinding.context with
  | some context => (okStatus, some context)
  | none => (okStatus, none)

def GlContext.hasContext (gl : GlContext) : Bool := gl.context.isSome

def GlContext.isCurrent (gl : GlContext) (currentContext : Option Nat) : Bool :=
  gl.hasContext && currentContext == gl.context

/-! ## Creating a context -/

section Create

variable {env : NsglEnv} {shareContext : Option Nat} {gl : GlContext}

/-- `CreateContext` returns OK, with an `NSOpenGLContext` and a texture cache, or one of its
three errors. -/
theorem GlContext.createContext_cases (env : NsglEnv) (shareContext : Option Nat)
    (gl : GlContext) :
    ((gl.createContext env shareContext).1 = okStatus ∧
        (gl.createContext env shareContext).2.hasContext ∧
        (gl.createContext env shareContext).2.textureCache.isSome) ∨
      (gl.createContext env shareContext).1 = internalError pixelFormatMessage ∨
      (gl.createContext env shareContext).1 = internalError contextMessage ∨
      (gl.createContext env shareContext).1 = internalError textureCacheMessage := by
  unfold GlContext.createContext
  split
  · exact .inr (.inl rfl)
  · split
    · exact .inr (.inr (.inl rfl))
    · split
      · exact .inr (.inr (.inr rfl))
      · exact .inl ⟨rfl, rfl, rfl⟩

/-- The pixel-format error comes exactly when both pixel-format requests give `nil`. -/
theorem GlContext.createContext_pixelFormat_error_iff :
    (gl.createContext env shareContext).1 = internalError pixelFormatMessage ↔
      env.pixelFormatWithAttributes pixelFormatAttributes = none ∧
        env.pixelFormatWithAttributes pixelFormatAttributesNoAccel = none := by
  unfold GlContext.createContext
  split
  · rename_i hnone
    simpa using hnone
  · rename_i format hsome
    have hnot : ¬ (env.pixelFormatWithAttributes pixelFormatAttributes = none ∧
        env.pixelFormatWithAttributes pixelFormatAttributesNoAccel = none) := by
      rintro ⟨hfirst, hsecond⟩
      simp [hfirst, hsecond] at hsome
    simp only [hnot, iff_false]
    split
    · simp [internalError, contextMessage, pixelFormatMessage]
    · split <;> simp [internalError, okStatus, textureCacheMessage, pixelFormatMessage]

theorem isCurrent_thisContextBinding (gl : GlContext) :
    gl.isCurrent (setCurrentContextBinding gl.thisContextBinding).2 = gl.hasContext := by
  cases hcontext : gl.context <;>
    simp [GlContext.isCurrent, GlContext.hasContext, setCurrentContextBinding,
      GlContext.thisContextBinding, hcontext]

/-- `GetCurrentContextBinding` after `SetCurrentContextBinding` gives the context set. -/
theorem getCurrentContextBinding_set (newBinding binding : ContextBinding) :
    (getCurrentContextBinding (setCurrentContextBinding newBinding).2 binding).context =
      newBinding.context := by
  unfold setCurrentContextBinding
  split <;> simp_all [getCurrentContextBinding]

/-- A `GlContext` that `Create` returns has an `NSOpenGLContext` and a texture cache, and
is current once its own binding is set. -/
theorem GlContext.create_current {finishInitialization : GlContext → Bool → Status}
    {createThread : Bool}
    (hcreate : GlContext.create env finishInitialization shareContext createThread = .ok gl) :
    gl.hasContext ∧ gl.textureCache.isSome ∧
      gl.isCurrent (setCurrentContextBinding gl.thisContextBinding).2 := by
  simp only [GlContext.create] at hcreate
  split_ifs at hcreate with hcreated
  cases hcreate
  rw [isCurrent_thisContextBinding]
  rcases GlContext.createContext_cases env shareContext GlContext.empty with
    ⟨-, hcontext, hcache⟩ | hfailed | hfailed | hfailed
  · exact ⟨hcontext, hcache, hcontext⟩
  all_goals simp [hfailed] at hcreated

end Create

end MediaPipe.Gpu
