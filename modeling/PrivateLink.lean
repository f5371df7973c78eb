import PrivateLink.Attribute.Rendering
import PrivateLink.Attribute.Schema
import PrivateLink.Catalogue.Endpoint
import PrivateLink.Cloud
import PrivateLink.CommandLine.Run
import PrivateLink.Json.Document
import PrivateLink.Json.Printer
import PrivateLink.Json.Reader
import PrivateLink.Main
import PrivateLink.Manager.Client
import PrivateLink.Manager.Identifier
import PrivateLink.Manager.Server
import PrivateLink.Network.Client
import PrivateLink.Network.Failure
import PrivateLink.Provider
import PrivateLink.Resource
import PrivateLink.Script
import PrivateLink.Settings
import PrivateLink.Stop.Timeline
import PrivateLink.Text.Quoted
import PrivateLink.Text.WordCharacter
import PrivateLink.Proofs.Checks
import PrivateLink.Proofs.Json.Scalar
import PrivateLink.Proofs.Json.Spelling
import PrivateLink.Proofs.Dictionary
import PrivateLink.Proofs.Wire.RoundTrip
import PrivateLink.Proofs.Endpoint.Exchange
import PrivateLink.Proofs.Manager.Server
import PrivateLink.Proofs.Manager.Polling
import PrivateLink.Proofs.Manager.Timely
import PrivateLink.Proofs.Endpoint.Timely
import PrivateLink.Proofs.Provider.Task
import PrivateLink.Proofs.Provider.Timely
import PrivateLink.Proofs.Manager.Identifier
import PrivateLink.Proofs.Catalogue.Accepted
import PrivateLink.Proofs.Cloud.Shelf
import PrivateLink.Proofs.Endpoint.Identifier
import PrivateLink.Proofs.Provider.Accepted
import PrivateLink.Proofs.Cloud.Store
import PrivateLink.Proofs.Cloud.Refinement
import PrivateLink.Proofs.Provider.Refinement
import PrivateLink.Proofs.Endpoint.Course
import PrivateLink.Proofs.Endpoint.Application
import PrivateLink.Proofs.Endpoint.Deletion
import PrivateLink.Proofs.Provider.Refusal
import PrivateLink.Proofs.Manager.Address
import PrivateLink.Proofs.Manager.Requests
import PrivateLink.Proofs.Provider.Addressed
import PrivateLink.Proofs.Catalogue.Admission
import PrivateLink.Proofs.Endpoint.Description
import PrivateLink.Proofs.Endpoint.Attributes
import PrivateLink.Proofs.Cloud.Unsteady
import PrivateLink.Proofs.Endpoint.Parameters
import PrivateLink.Proofs.Json.Rearrangement
import PrivateLink.Proofs.Provider.Admission
import PrivateLink.Proofs.Provider.Protection
import PrivateLink.Proofs.Provider.Sent
import PrivateLink.Proofs.Wire.Rearrangement
import PrivateLink.Proofs.Attribute.Rendering
import PrivateLink.Proofs.Json.Layout
import PrivateLink.Proofs.ResourceFile
import PrivateLink.Proofs.Attribute.Conformance
import PrivateLink.Proofs.Attribute.Schema
import PrivateLink.Proofs.Attribute.Replacement
import PrivateLink.Proofs.Attribute.Violation
import PrivateLink.Proofs.Provider.States
import PrivateLink.Proofs.Text.LetterCase
import PrivateLink.Proofs.Provider.Guard
import PrivateLink.Proofs.Provider.FirstCall
import PrivateLink.Proofs.Provider.InPlace
import PrivateLink.Proofs.Provider.Groups
import PrivateLink.Proofs.Endpoint.Success
import PrivateLink.Proofs.Cloud.Repetition
import PrivateLink.Proofs.Provider.Reapplied
import PrivateLink.Proofs.Manager.Components
import PrivateLink.Proofs.Manager.Pace
import PrivateLink.Proofs.Cloud.Steady
import PrivateLink.Proofs.Provider.Named
import PrivateLink.Proofs.Manager.Written
import PrivateLink.Proofs.Provider.Located
import PrivateLink.Proofs.Endpoint.Interfaces
import PrivateLink.Proofs.Provider.Reading
import PrivateLink.Proofs.Stop.Course
import PrivateLink.Proofs.Settings.Outcome
import PrivateLink.Proofs.Manager.Access
import PrivateLink.Proofs.Catalogue.GroupName
import PrivateLink.Proofs.Catalogue.Language
import PrivateLink.Proofs.Manager.Outcome
import PrivateLink.Proofs.Attribute.Conversion
import PrivateLink.Proofs.ResourceFile.Attributes
import PrivateLink.Proofs.Provider.Returned
