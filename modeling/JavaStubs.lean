import JavaStubs.Files.Survey
import JavaStubs.Main
import JavaStubs.Proofs.Archive.Histories
import JavaStubs.Proofs.CommandLine.Reporting
import JavaStubs.Proofs.Config.Merging
import JavaStubs.Proofs.Descriptor.Compiling
import JavaStubs.Proofs.Descriptor.Confinement
import JavaStubs.Proofs.Implementor.ClassFiles
import JavaStubs.Proofs.Implementor.Placing
import JavaStubs.Proofs.Implementor.Reproducing
import JavaStubs.Proofs.Implementor.Sourcing
import JavaStubs.Proofs.Implementor.Sticking
import JavaStubs.Proofs.Implementor.Transparency
import JavaStubs.Proofs.Introspection.Answering
import JavaStubs.Proofs.Introspection.Catalogs
import JavaStubs.Proofs.Introspection.Exploring
import JavaStubs.Proofs.Introspection.Naming
import JavaStubs.Proofs.Introspection.PassedOver
import JavaStubs.Proofs.Introspection.Privacy
import JavaStubs.Proofs.Introspection.Shadowing
import JavaStubs.Proofs.Java.Descriptors
import JavaStubs.Proofs.Java.Surface
import JavaStubs.Proofs.Journal.Order
import JavaStubs.Proofs.Listing.Headers
import JavaStubs.Proofs.Listing.Sections
import JavaStubs.Proofs.Workspace.Leaving
import JavaStubs.Tool.Launch
