import HttpServerApps.Router.Lookup
import HttpServerApps.Ssl.Inbound
import HttpServerApps.Chat.LoginRace
import HttpServerApps.Chat.RefusedLogin
import HttpServerApps.Chat.OnlineRuns
import HttpServerApps.Session.Lookup
import HttpServerApps.Middleware.Interleaving
import HttpServerApps.Common.Runs
import HttpServerApps.Common.Resumable
import HttpServerApps.Http.Buffer
import HttpServerApps.Http.ContextChunks
import HttpServerApps.Sql.Lexer
import HttpServerApps.Sql.Insert
import HttpServerApps.Chat.MessageInsert
import HttpServerApps.Ssl.Growth
import HttpServerApps.Http.Server
import HttpServerApps.Http.ParseErrors
import HttpServerApps.Http.TerminalErrors
import HttpServerApps.Http.Framing
import HttpServerApps.Http.KeepAlive
import HttpServerApps.Http.StatusLine
import HttpServerApps.Chat.Authentication
import HttpServerApps.Chat.SessionList
import HttpServerApps.Chat.Isolation
import HttpServerApps.Chat.Restart
import HttpServerApps.Chat.Roles
import HttpServerApps.Chat.Overlap
import HttpServerApps.Chat.OwnProvider
import HttpServerApps.Http.CallbackThrows
import HttpServerApps.Http.MethodAssertion
import HttpServerApps.Http.RoundTrip
import HttpServerApps.Session.Calls
import HttpServerApps.Session.Representation
import HttpServerApps.Session.Destroyed
import HttpServerApps.Session.Expiry
import HttpServerApps.Session.Cleanup
import HttpServerApps.Db.Conservation
import HttpServerApps.Db.Exclusive
import HttpServerApps.Chat.CloseHonoured
import HttpServerApps.Session.Cookie
import HttpServerApps.Http.Oversized
import HttpServerApps.Db.Waiting
import HttpServerApps.Mq.AtLeastOnce
import HttpServerApps.Mq.Survival
import HttpServerApps.Ssl.FinalErrors
import HttpServerApps.Chat.Migration
import HttpServerApps.Chat.SessionIdentity
import HttpServerApps.Chat.RegistrationRace
import HttpServerApps.Middleware.VaryOrigin
import HttpServerApps.Middleware.Pairing
import HttpServerApps.Middleware.Injection
import HttpServerApps.Router.Precedence
import HttpServerApps.Router.PathParameters
import HttpServerApps.Chat.LogoutOutcome
import HttpServerApps.Chat.TemporaryPrompts
import HttpServerApps.Ssl.FedOnce
import HttpServerApps.Ssl.Handover
import HttpServerApps.Http.QueryString
import HttpServerApps.Chat.EscapedLiteral
import HttpServerApps.Chat.PasswordParsing
import HttpServerApps.Common.Occurrences
import HttpServerApps.Chat.PromptTemplates
import HttpServerApps.Chat.ReplyShapes
import HttpServerApps.Db.Initialisation
import HttpServerApps.Chat.NewConversations
import HttpServerApps.Chat.Base64
import HttpServerApps.Chat.Refusals
import HttpServerApps.Chat.ReadableAnswers
import HttpServerApps.Http.Pipelining
import HttpServerApps.Http.WellFormed
import HttpServerApps.Http.Transcript
import HttpServerApps.Http.Hosting
import HttpServerApps.Chat.SignedIn
import HttpServerApps.Chat.Accounts
import HttpServerApps.Chat.Durability
import HttpServerApps.Common.SharedQueue
import HttpServerApps.Amqp.Clients
