import Gatehouse.Account.Access
import Gatehouse.Account.Email
import Gatehouse.Account.Password
import Gatehouse.Account.Registry
import Gatehouse.Account.User
import Gatehouse.Cache.Key
import Gatehouse.Cache.Memory
import Gatehouse.Cache.Provider
import Gatehouse.Cache.Redis
import Gatehouse.Cache.RedisUrl
import Gatehouse.Cache.Typed
import Gatehouse.Captcha.Canvas
import Gatehouse.Captcha.Challenge
import Gatehouse.Captcha.Picture
import Gatehouse.Captcha.Png
import Gatehouse.Captcha.Problem
import Gatehouse.Captcha.Session
import Gatehouse.Config.Layers
import Gatehouse.Config.Settings
import Gatehouse.Config.Toml
import Gatehouse.Config.Value
import Gatehouse.Digest.Argon2
import Gatehouse.Digest.Blake2b
import Gatehouse.Digest.Sha256
import Gatehouse.Failure
import Gatehouse.Http.Application
import Gatehouse.Http.Body
import Gatehouse.Http.Cookie
import Gatehouse.Http.Cors
import Gatehouse.Http.Endpoint
import Gatehouse.Http.Form
import Gatehouse.Http.Identity
import Gatehouse.Http.MediaType
import Gatehouse.Http.Message
import Gatehouse.Http.Status
import Gatehouse.Idna.CompositionTable
import Gatehouse.Idna.Domain
import Gatehouse.Idna.Label
import Gatehouse.Idna.LabelTable
import Gatehouse.Idna.MappingTable
import Gatehouse.Idna.Normalization
import Gatehouse.Idna.Punycode
import Gatehouse.Idna.Run
import Gatehouse.Instant
import Gatehouse.Instant.Calendar
import Gatehouse.Instant.HttpDate
import Gatehouse.Instant.Timestamp
import Gatehouse.Json
import Gatehouse.Json.Access
import Gatehouse.Json.Outline
import Gatehouse.Json.Reading
import Gatehouse.Main
import Gatehouse.Net.Address
import Gatehouse.Proofs.Account.AddressIndex
import Gatehouse.Proofs.Account.Contention
import Gatehouse.Proofs.Account.FailedSignups
import Gatehouse.Proofs.Account.Rejections
import Gatehouse.Proofs.Account.Revocation
import Gatehouse.Proofs.Cache.Crowding
import Gatehouse.Proofs.Cache.Pruning
import Gatehouse.Proofs.Cache.Redaction
import Gatehouse.Proofs.Captcha.Answers
import Gatehouse.Proofs.Captcha.Gate
import Gatehouse.Proofs.Captcha.Lines
import Gatehouse.Proofs.Captcha.Slots
import Gatehouse.Proofs.Captcha.Solvable
import Gatehouse.Proofs.Config.Layering
import Gatehouse.Proofs.Config.Variables
import Gatehouse.Proofs.Http.Callers
import Gatehouse.Proofs.Http.Discretion
import Gatehouse.Proofs.Http.Return
import Gatehouse.Proofs.Http.Throttling
import Gatehouse.Proofs.Instant.Calendar
import Gatehouse.Proofs.Instant.Timestamp
import Gatehouse.Proofs.Service.Turns
import Gatehouse.Proofs.Text.Decimals
import Gatehouse.Proofs.Text.Nearest
import Gatehouse.Proofs.Text.Plain
import Gatehouse.Proofs.Text.Printing
import Gatehouse.Proofs.Text.Rounding
import Gatehouse.Proofs.Throttle.Bursts
import Gatehouse.Proofs.Throttle.Bystanders
import Gatehouse.Proofs.Throttle.Disorder
import Gatehouse.Proofs.Throttle.Faults
import Gatehouse.Proofs.Throttle.Retries
import Gatehouse.Proofs.Throttle.SweepJumps
import Gatehouse.Proofs.Throttle.SweepSignals
import Gatehouse.Proofs.Token.Lifetimes
import Gatehouse.Random
import Gatehouse.Service.Flow
import Gatehouse.Service.World
import Gatehouse.Table
import Gatehouse.Text.Base64
import Gatehouse.Text.Blank
import Gatehouse.Text.Bytes
import Gatehouse.Text.CaseTable
import Gatehouse.Text.Decimal
import Gatehouse.Text.LowerCase
import Gatehouse.Text.Percent
import Gatehouse.Text.Shortest
import Gatehouse.Throttle.Bucket
import Gatehouse.Throttle.Gate
import Gatehouse.Throttle.Sweeper
import Gatehouse.Token.Claims
import Gatehouse.Token.Codec
import Gatehouse.Token.Header
import Gatehouse.Token.Pair
import Gatehouse.Uuid
