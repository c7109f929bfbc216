import CCTVWebServer.Properties.Accounts
import CCTVWebServer.Properties.Bootstrap
import CCTVWebServer.Properties.Broadcasts
import CCTVWebServer.Properties.Browsers
import CCTVWebServer.Properties.Ciphertexts
import CCTVWebServer.Properties.Clients
import CCTVWebServer.Properties.Configuration
import CCTVWebServer.Properties.Connections
import CCTVWebServer.Properties.Cookies
import CCTVWebServer.Properties.Decisions
import CCTVWebServer.Properties.Encoding
import CCTVWebServer.Properties.Frames
import CCTVWebServer.Properties.Handles
import CCTVWebServer.Properties.Isolation
import CCTVWebServer.Properties.Journal
import CCTVWebServer.Properties.Lifetimes
import CCTVWebServer.Properties.Listening
import CCTVWebServer.Properties.LiveView
import CCTVWebServer.Properties.Locking
import CCTVWebServer.Properties.Passwords
import CCTVWebServer.Properties.Playback
import CCTVWebServer.Properties.Refinement
import CCTVWebServer.Properties.Registrations
import CCTVWebServer.Properties.RelayResources
import CCTVWebServer.Properties.Relays
import CCTVWebServer.Properties.Representation
import CCTVWebServer.Properties.Responses
import CCTVWebServer.Properties.Secrets
import CCTVWebServer.Properties.SelfLocking
import CCTVWebServer.Properties.Sessions
import CCTVWebServer.Properties.Settings
import CCTVWebServer.Properties.StatusLine
import CCTVWebServer.Properties.Strangers
import CCTVWebServer.Properties.Transmission
import CCTVWebServer.Properties.Turns
import CCTVWebServer.Properties.Upgrades
import CCTVWebServer.Properties.UsersTable
import CCTVWebServer.Properties.Viewers
import CCTVWebServer.Properties.WritePump
import CCTVWebServer.Properties.WrongSecret
