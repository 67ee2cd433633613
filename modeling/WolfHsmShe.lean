import WolfHsmShe.Basic
import WolfHsmShe.State
import WolfHsmShe.AesMp
import WolfHsmShe.SecureBoot
import WolfHsmShe.KeyUpdate
import WolfHsmShe.Prng
import WolfHsmShe.Cipher
import WolfHsmShe.Dispatch
import WolfHsmShe.Frame
import WolfHsmShe.Failures
import WolfHsmShe.Gate
import WolfHsmShe.BootRuns
import WolfHsmShe.LoadKeyRuns
import WolfHsmShe.RoundTrip
import WolfHsmShe.Isolation
import WolfHsmShe.Measurement
import WolfHsmShe.Services
import WolfHsmShe.AesMpLoop
import WolfHsmShe.SessionRuns
import WolfHsmShe.LoadKeySpec
import WolfHsmShe.BootUpload
import WolfHsmShe.KeyUpdateFormat
import WolfHsmShe.FlagTwins
import WolfHsmShe.Fleet
