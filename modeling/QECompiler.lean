import QECompiler.Config.QEConfig
import QECompiler.Config.Overlay
import QECompiler.Support.StringRef
import QECompiler.Config.EnvVarConfig
import QECompiler.Config.CLIOptions
import QECompiler.Config.CommandLine
import QECompiler.Config.CLIConfig
import QECompiler.Config.Process
import QECompiler.Config.Pipeline
import QECompiler.Config.Resources
import QECompiler.Diagnostics.Errors
