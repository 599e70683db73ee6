import FormRules.Main
import FormRules.Proofs.Command.Evaluation
import FormRules.Proofs.Configuration.Canonical
import FormRules.Proofs.Configuration.Completeness
import FormRules.Proofs.Configuration.TokenErrors
import FormRules.Proofs.Entry.Recorded
import FormRules.Proofs.Entry.Registration
import FormRules.Proofs.Evaluation.Comparison
import FormRules.Proofs.Evaluation.Conjunction
import FormRules.Proofs.Matching.Calendar
import FormRules.Proofs.Message.Disclosure
import FormRules.Proofs.Message.Filling
import FormRules.Proofs.Message.Overrides
import FormRules.Proofs.Reading.Image
import FormRules.Proofs.Reporting.Merging
import FormRules.Proofs.Reporting.Order
import FormRules.Proofs.RoundTrip.Formats
import FormRules.Proofs.Matching.Expressions
import FormRules.Proofs.Matching.Folding
import FormRules.Proofs.Matching.Octets
import FormRules.Proofs.Matching.Hosts
import FormRules.Proofs.Matching.PrivateHosts
import FormRules.Proofs.Matching.Urls
import FormRules.Proofs.Matching.PublicAddresses
import FormRules.Proofs.Evaluation.Lengths
import FormRules.Proofs.Matching.Mail
import FormRules.Proofs.Matching.LookAlikes
import FormRules.Proofs.Matching.Spaces
import FormRules.Proofs.Matching.Addresses
import FormRules.Proofs.Number.Forms
import FormRules.Proofs.Reading.Spacing
