import MediaPipe.Status
import MediaPipe.Framework.CalculatorContract
import MediaPipe.Segmentation.Options
import MediaPipe.Segmentation.MaskShader
import MediaPipe.Segmentation.PrevMask
import MediaPipe.Segmentation.Calculator
import MediaPipe.Image.Mat
import MediaPipe.Image.ColorConvert
import MediaPipe.Jni.GraphConfig
import MediaPipe.Jni.Graph
import MediaPipe.Jni.Lifecycle
import MediaPipe.Jni.GraphSettings
import MediaPipe.Jni.Configuration
import MediaPipe.Jni.ConfigurationRefinement
import MediaPipe.Jni.GraphJni
import MediaPipe.Jni.PacketRegistry
import MediaPipe.Jni.CallbackThreads
import MediaPipe.Jni.NativeHandles
import MediaPipe.Gpu.GlContextNsgl
