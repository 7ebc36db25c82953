import ShaderBindings.Binding.Drawing
import ShaderBindings.Binding.Lifetime
import ShaderBindings.Binding.Loading
import ShaderBindings.Binding.Proxy
import ShaderBindings.GL.Scripted
import ShaderBindings.Main
import ShaderBindings.Platform
import ShaderBindings.Proofs.Arguments.Reading
import ShaderBindings.Proofs.Binding.ClassName
import ShaderBindings.Proofs.Binding.Direct
import ShaderBindings.Proofs.Binding.Dispatch
import ShaderBindings.Proofs.Binding.Drawing
import ShaderBindings.Proofs.Binding.Reloading
import ShaderBindings.Proofs.Binding.Sharing
import ShaderBindings.Proofs.Binding.Typing
import ShaderBindings.Proofs.Command.Compiling
import ShaderBindings.Proofs.Generation.Bracket
import ShaderBindings.Proofs.Generation.Outcome
import ShaderBindings.Proofs.Watch.Changes
import ShaderBindings.Texture.Object
import ShaderBindings.Proofs.Compilation.Interruption
import ShaderBindings.Proofs.Binding.Failure
import ShaderBindings.Proofs.Compilation.Mixing
import ShaderBindings.Proofs.Conversion.Integers
import ShaderBindings.Proofs.Diagnostic
import ShaderBindings.Proofs.Arguments.StageFiles
import ShaderBindings.Proofs.Arguments.Marks
import ShaderBindings.Proofs.Binding.Proxy
import ShaderBindings.Proofs.Binding.Embedding
import ShaderBindings.Proofs.Context
import ShaderBindings.Proofs.Listing.Layout
import ShaderBindings.Proofs.Version.Finding
