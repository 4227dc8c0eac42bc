import PageTemplates.Configuration.Load
import PageTemplates.Configuration.Settings
import PageTemplates.Data.Tagged
import PageTemplates.Fault.Form
import PageTemplates.FunctionTable.Samples
import PageTemplates.FunctionTable.Standard
import PageTemplates.Proofs.Autoescape
import PageTemplates.Proofs.Build.Isolation
import PageTemplates.Proofs.Build.Spelling
import PageTemplates.Proofs.Configuration.Variables
import PageTemplates.Proofs.Fault
import PageTemplates.Proofs.Headers
import PageTemplates.Proofs.Json.Documents
import PageTemplates.Proofs.PageRender.Outcome
import PageTemplates.Proofs.PageRender.Streaming
import PageTemplates.Proofs.Render.Parts
import PageTemplates.Proofs.Render.Payloads
import PageTemplates.Proofs.Renderer.Shown
import PageTemplates.Proofs.Response.ContentType
import PageTemplates.Proofs.Renderer.Containment
import PageTemplates.Proofs.Renderer.Edits
import PageTemplates.Proofs.Renderer.Functions
import PageTemplates.Proofs.Renderer.Layouts
import PageTemplates.Proofs.Renderer.Modes
import PageTemplates.Proofs.Renderer.Requests
import PageTemplates.Proofs.Renderer.Strings
import PageTemplates.Proofs.Sandbox.Stripped
import PageTemplates.Proofs.Settings.Normal
import PageTemplates.Proofs.Source.Pattern
import PageTemplates.Proofs.Source.Trees
import PageTemplates.Proofs.Template.Fragments
import PageTemplates.Proofs.Template.Reading
import PageTemplates.Proofs.Workshop
