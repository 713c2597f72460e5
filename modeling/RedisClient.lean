import RedisClient.Config.Json
import RedisClient.Session
import RedisClient.Proofs.Session.Attribution
import RedisClient.Proofs.Session.Conservation
import RedisClient.Proofs.Session.ReadTimeout
import RedisClient.Proofs.Session.Validation
import RedisClient.Proofs.Connection.Hearing
import RedisClient.Proofs.Connector.Outcomes
import RedisClient.Proofs.Session.Classification
import RedisClient.Proofs.Connector.Connecting
import RedisClient.Proofs.Connector.Opening
import RedisClient.Proofs.Session.Order
import RedisClient.Proofs.Session.Loss
import RedisClient.Proofs.Session.Agreement
import RedisClient.Proofs.Text.Blank
import RedisClient.Proofs.Connector.Greetings
import RedisClient.Proofs.Session.Setup
import RedisClient.Proofs.Connector.Alike
import RedisClient.Proofs.Connector.Password
import RedisClient.Proofs.Session.Secrecy
import RedisClient.Proofs.Json.Grammar
import RedisClient.Proofs.Json.Scalars
import RedisClient.Proofs.Json.Skipping
import RedisClient.Proofs.Config.Documents
import RedisClient.Proofs.Session.Received
import RedisClient.Proofs.Session.Blocking
import RedisClient.Proofs.Address.Grammar
import RedisClient.Proofs.Address.Printing
import RedisClient.Proofs.Config.Timeouts
import RedisClient.Proofs.Session.Maps
import RedisClient.Proofs.Session.ErrorReplies
import RedisClient.Proofs.Config.Normalisation
import RedisClient.Proofs.Json.Numbers
import RedisClient.Proofs.Json.Values
import RedisClient.Proofs.Json.Records
import RedisClient.Proofs.Json.Members
import RedisClient.Proofs.Config.Forms
import RedisClient.Proofs.Config.Integers
import RedisClient.Proofs.Session.Replies
import RedisClient.Proofs.Reply.Bulks
import RedisClient.Proofs.Text.Utf8
import RedisClient.Proofs.Session.Bulks
import RedisClient.Proofs.Binary64.Rounding
import RedisClient.Proofs.Binary64.Reading
import RedisClient.Proofs.Binary64.Writing
import RedisClient.Proofs.Command.Numbers
