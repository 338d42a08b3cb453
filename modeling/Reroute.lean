import Reroute.Connection
import Reroute.Main
import Reroute.Task
import Reroute.Watcher
import Reroute.Proofs.Arrangement
import Reroute.Proofs.Expansion
import Reroute.Proofs.Failure
import Reroute.Proofs.Interleaving
import Reroute.Proofs.Locality
import Reroute.Proofs.Query
import Reroute.Proofs.Redirect
import Reroute.Proofs.Watching
import Reroute.Proofs.Modification
import Reroute.Proofs.Suffix
import Reroute.Proofs.Legality
import Reroute.Proofs.LastEdit
import Reroute.Proofs.FilePath
import Reroute.Proofs.CookieJar
import Reroute.Proofs.Payload
import Reroute.Proofs.Surplus
import Reroute.Proofs.Polling
import Reroute.Proofs.DocumentRoot
import Reroute.Proofs.CookiePiece
import Reroute.Proofs.Groups
import Reroute.Proofs.NextHop
import Reroute.Proofs.Spelling
import Reroute.Proofs.Component
import Reroute.Proofs.Authorization
import Reroute.Proofs.Layout
import Reroute.Proofs.Diagnosis
import Reroute.Proofs.Limits
