import EngineActions.Action

namespace EngineActions.Shipped
open ValueType

def nwn2From212 : List Declaration := [
  declare 212 "EffectSpellResistanceIncrease" 1 effect [int]
    "effect EffectSpellResistanceIncrease(int nValue);",
  declare 213 "GetLocation" 1 location [object]
    "location GetLocation(object oObject);",
  declare 214 "ActionJumpToLocation" 1 void [location]
    "void ActionJumpToLocation(location lLocation);",
  declare 215 "Location" 3 location [object, vector, float]
    "location Location(object oArea, vector vPosition, float fOrientation);",
  declare 216 "ApplyEffectAtLocation" 3 void [int, effect, location, float]
    "void ApplyEffectAtLocation(int nDurationType, effect eEffect, location lLocation, float fDuration=0.0f);",
  declare 217 "GetIsPC" 1 int [object]
    "int GetIsPC(object oCreature);",
  declare 218 "FeetToMeters" 1 float [float]
    "float FeetToMeters(float fFeet);",
  declare 219 "YardsToMeters" 1 float [float]
    "float YardsToMeters(float fYards);",
  declare 220 "ApplyEffectToObject" 3 void [int, effect, object, float]
    "void ApplyEffectToObject(int nDurationType, effect eEffect, object oTarget, float fDuration=0.0f);",
  declare 221 "SpeakString" 1 void [string, int]
    "void SpeakString(string sStringToSpeak, int nTalkVolume=TALKVOLUME_TALK);",
  declare 222 "GetSpellTargetLocation" 0 location []
    "location GetSpellTargetLocation();",
  declare 223 "GetPositionFromLocation" 1 vector [location]
    "vector GetPositionFromLocation(location lLocation);",
  declare 224 "GetAreaFromLocation" 1 object [location]
    "object GetAreaFromLocation(location lLocation);",
  declare 225 "GetFacingFromLocation" 1 float [location]
    "float GetFacingFromLocation(location lLocation);",
  declare 226 "GetNearestCreatureToLocation" 3 object [int, int, location, int, int, int, int, int]
    "object GetNearestCreatureToLocation(int nFirstCriteriaType, int nFirstCriteriaValue, location lLocation, int nNth=1, int nSecondCriteriaType=-1, int nSecondCriteriaValue=-1, int nThirdCriteriaType=-1, int nThirdCriteriaValue=-1);",
  declare 227 "GetNearestObject" 0 object [int, object, int]
    "object GetNearestObject(int nObjectType=OBJECT_TYPE_ALL, object oTarget=OBJECT_SELF, int nNth=1);",
  declare 228 "GetNearestObjectToLocation" 2 object [int, location, int]
    "object GetNearestObjectToLocation(int nObjectType, location lLocation, int nNth=1);",
  declare 229 "GetNearestObjectByTag" 1 object [string, object, int]
    "object GetNearestObjectByTag(string sTag, object oTarget=OBJECT_SELF, int nNth=1);",
  declare 230 "IntToFloat" 1 float [int]
    "float IntToFloat(int nInteger);",
  declare 231 "FloatToInt" 1 int [float]
    "int FloatToInt(float fFloat);",
  declare 232 "StringToInt" 1 int [string]
    "int StringToInt(string sNumber);",
  declare 233 "StringToFloat" 1 float [string]
    "float StringToFloat(string sNumber);",
  declare 234 "ActionCastSpellAtLocation" 2 void [int, location, int, int, int, int, int, int, int]
    "void ActionCastSpellAtLocation(int nSpell, location lTargetLocation, int nMetaMagic=METAMAGIC_ANY, int bCheat=FALSE, int nProjectilePathType=PROJECTILE_PATH_TYPE_DEFAULT, int bInstantSpell=FALSE, int nClass=-1, int bSpontaneousCast=FALSE, int nDomainLevel=0);",
  declare 235 "GetIsEnemy" 1 int [object, object]
    "int GetIsEnemy(object oTarget, object oSource=OBJECT_SELF);",
  declare 236 "GetIsFriend" 1 int [object, object]
    "int GetIsFriend(object oTarget, object oSource=OBJECT_SELF);",
  declare 237 "GetIsNeutral" 1 int [object, object]
    "int GetIsNeutral(object oTarget, object oSource=OBJECT_SELF);",
  declare 238 "GetPCSpeaker" 0 object []
    "object GetPCSpeaker();",
  declare 239 "GetStringByStrRef" 1 string [int, int]
    "string GetStringByStrRef(int nStrRef, int nGender=GENDER_MALE);",
  declare 240 "ActionSpeakStringByStrRef" 1 void [int, int]
    "void ActionSpeakStringByStrRef(int nStrRef, int nTalkVolume=TALKVOLUME_TALK);",
  declare 241 "DestroyObject" 1 void [object, float]
    "void DestroyObject(object oDestroy, float fDelay=0.0f);",
  declare 242 "GetModule" 0 object []
    "object GetModule();",
  declare 243 "CreateObject" 3 object [int, string, location, int, string]
    "object CreateObject(int nObjectType, string sTemplate, location lLocation, int bUseAppearAnimation=FALSE, string sNewTag=\"\");",
  declare 244 "EventSpellCastAt" 2 event [object, int, int]
    "event EventSpellCastAt(object oCaster, int nSpell, int bHarmful=TRUE);",
  declare 245 "GetLastSpellCaster" 0 object []
    "object GetLastSpellCaster();",
  declare 246 "GetLastSpell" 0 int []
    "int GetLastSpell();",
  declare 247 "GetUserDefinedEventNumber" 0 int []
    "int GetUserDefinedEventNumber();",
  declare 248 "GetSpellId" 0 int []
    "int GetSpellId();",
  declare 249 "RandomName" 0 string [int]
    "string RandomName(int nNameType=NAME_FIRST_GENERIC_MALE);",
  declare 250 "EffectPoison" 1 effect [int]
    "effect EffectPoison(int nPoisonType);",
  declare 251 "EffectDisease" 1 effect [int]
    "effect EffectDisease(int nDiseaseType);",
  declare 252 "EffectSilence" 0 effect []
    "effect EffectSilence();",
  declare 253 "GetName" 1 string [object, int]
    "string GetName(object oObject, int bOriginalName=FALSE);",
  declare 254 "GetLastSpeaker" 0 object []
    "object GetLastSpeaker();",
  declare 255 "BeginConversation" 0 int [string, object]
    "int BeginConversation(string sResRef=\"\", object oObjectToDialog=OBJECT_INVALID);",
  declare 256 "GetLastPerceived" 0 object []
    "object GetLastPerceived();",
  declare 257 "GetLastPerceptionHeard" 0 int []
    "int GetLastPerceptionHeard();",
  declare 258 "GetLastPerceptionInaudible" 0 int []
    "int GetLastPerceptionInaudible();",
  declare 259 "GetLastPerceptionSeen" 0 int []
    "int GetLastPerceptionSeen();",
  declare 260 "GetLastClosedBy" 0 object []
    "object GetLastClosedBy();",
  declare 261 "GetLastPerceptionVanished" 0 int []
    "int GetLastPerceptionVanished();",
  declare 262 "GetFirstInPersistentObject" 0 object [object, int, int]
    "object GetFirstInPersistentObject(object oPersistentObject=OBJECT_SELF, int nResidentObjectType=OBJECT_TYPE_CREATURE, int nPersistentZone=PERSISTENT_ZONE_ACTIVE);",
  declare 263 "GetNextInPersistentObject" 0 object [object, int, int]
    "object GetNextInPersistentObject(object oPersistentObject=OBJECT_SELF, int nResidentObjectType=OBJECT_TYPE_CREATURE, int nPersistentZone=PERSISTENT_ZONE_ACTIVE);",
  declare 264 "GetAreaOfEffectCreator" 0 object [object]
    "object GetAreaOfEffectCreator(object oAreaOfEffectObject=OBJECT_SELF);",
  declare 265 "DeleteLocalInt" 2 void [object, string]
    "void DeleteLocalInt(object oObject, string sVarName);",
  declare 266 "DeleteLocalFloat" 2 void [object, string]
    "void DeleteLocalFloat(object oObject, string sVarName);",
  declare 267 "DeleteLocalString" 2 void [object, string]
    "void DeleteLocalString(object oObject, string sVarName);",
  declare 268 "DeleteLocalObject" 2 void [object, string]
    "void DeleteLocalObject(object oObject, string sVarName);",
  declare 269 "DeleteLocalLocation" 2 void [object, string]
    "void DeleteLocalLocation(object oObject, string sVarName);",
  declare 270 "EffectHaste" 0 effect []
    "effect EffectHaste();",
  declare 271 "EffectSlow" 0 effect []
    "effect EffectSlow();",
  declare 272 "ObjectToString" 1 string [object]
    "string ObjectToString(object oObject);",
  declare 273 "EffectImmunity" 1 effect [int]
    "effect EffectImmunity(int nImmunityType);",
  declare 274 "GetIsImmune" 2 int [object, int, object]
    "int GetIsImmune(object oCreature, int nImmunityType, object oVersus=OBJECT_INVALID);",
  declare 275 "EffectDamageImmunityIncrease" 2 effect [int, int]
    "effect EffectDamageImmunityIncrease(int nDamageType, int nPercentImmunity);",
  declare 276 "GetEncounterActive" 0 int [object]
    "int GetEncounterActive(object oEncounter=OBJECT_SELF);",
  declare 277 "SetEncounterActive" 1 void [int, object]
    "void SetEncounterActive(int nNewValue, object oEncounter=OBJECT_SELF);",
  declare 278 "GetEncounterSpawnsMax" 0 int [object]
    "int GetEncounterSpawnsMax(object oEncounter=OBJECT_SELF);",
  declare 279 "SetEncounterSpawnsMax" 1 void [int, object]
    "void SetEncounterSpawnsMax(int nNewValue, object oEncounter=OBJECT_SELF);",
  declare 280 "GetEncounterSpawnsCurrent" 0 int [object]
    "int GetEncounterSpawnsCurrent(object oEncounter=OBJECT_SELF);",
  declare 281 "SetEncounterSpawnsCurrent" 1 void [int, object]
    "void SetEncounterSpawnsCurrent(int nNewValue, object oEncounter=OBJECT_SELF);",
  declare 282 "GetModuleItemAcquired" 0 object []
    "object GetModuleItemAcquired();",
  declare 283 "GetModuleItemAcquiredFrom" 0 object []
    "object GetModuleItemAcquiredFrom();",
  declare 284 "SetCustomToken" 2 void [int, string]
    "void SetCustomToken(int nCustomTokenNumber, string sTokenValue);",
  declare 285 "GetHasFeat" 1 int [int, object]
    "int GetHasFeat(int nFeat, object oCreature=OBJECT_SELF);",
  declare 286 "GetHasSkill" 1 int [int, object]
    "int GetHasSkill(int nSkill, object oCreature=OBJECT_SELF);",
  declare 287 "ActionUseFeat" 2 void [int, object]
    "void ActionUseFeat(int nFeat, object oTarget);",
  declare 288 "ActionUseSkill" 2 void [int, object, int, object]
    "void ActionUseSkill(int nSkill, object oTarget, int nSubSkill=0, object oItemUsed=OBJECT_INVALID);",
  declare 289 "GetObjectSeen" 1 int [object, object]
    "int GetObjectSeen(object oTarget, object oSource=OBJECT_SELF);",
  declare 290 "GetObjectHeard" 1 int [object, object]
    "int GetObjectHeard(object oTarget, object oSource=OBJECT_SELF);",
  declare 291 "GetLastPlayerDied" 0 object []
    "object GetLastPlayerDied();",
  declare 292 "GetModuleItemLost" 0 object []
    "object GetModuleItemLost();",
  declare 293 "GetModuleItemLostBy" 0 object []
    "object GetModuleItemLostBy();",
  declare 294 "ActionDoCommand" 1 void [action]
    "void ActionDoCommand(action aActionToDo);",
  declare 295 "EventConversation" 0 event []
    "event EventConversation();",
  declare 296 "SetEncounterDifficulty" 1 void [int, object]
    "void SetEncounterDifficulty(int nEncounterDifficulty, object oEncounter=OBJECT_SELF);",
  declare 297 "GetEncounterDifficulty" 0 int [object]
    "int GetEncounterDifficulty(object oEncounter=OBJECT_SELF);",
  declare 298 "GetDistanceBetweenLocations" 2 float [location, location]
    "float GetDistanceBetweenLocations(location lLocationA, location lLocationB);",
  declare 299 "GetReflexAdjustedDamage" 3 int [int, object, int, int, object]
    "int GetReflexAdjustedDamage(int nDamage, object oTarget, int nDC, int nSaveType=SAVING_THROW_TYPE_NONE, object oSaveVersus=OBJECT_SELF);",
  declare 300 "PlayAnimation" 1 void [int, float, float]
    "void PlayAnimation(int nAnimation, float fSpeed=1.0, float fSeconds=0.0);",
  declare 301 "TalentSpell" 1 talent [int]
    "talent TalentSpell(int nSpell);",
  declare 302 "TalentFeat" 1 talent [int]
    "talent TalentFeat(int nFeat);",
  declare 303 "TalentSkill" 1 talent [int]
    "talent TalentSkill(int nSkill);",
  declare 304 "GetHasSpellEffect" 1 int [int, object]
    "int GetHasSpellEffect(int nSpell, object oObject=OBJECT_SELF);",
  declare 305 "GetEffectSpellId" 1 int [effect]
    "int GetEffectSpellId(effect eSpellEffect);",
  declare 306 "GetCreatureHasTalent" 1 int [talent, object]
    "int GetCreatureHasTalent(talent tTalent, object oCreature=OBJECT_SELF);",
  declare 307 "GetCreatureTalentRandom" 1 talent [int, object]
    "talent GetCreatureTalentRandom(int nCategory, object oCreature=OBJECT_SELF);",
  declare 308 "GetCreatureTalentBest" 2 talent [int, int, object]
    "talent GetCreatureTalentBest(int nCategory, int nCRMax, object oCreature=OBJECT_SELF);",
  declare 309 "ActionUseTalentOnObject" 2 void [talent, object]
    "void ActionUseTalentOnObject(talent tChosenTalent, object oTarget);",
  declare 310 "ActionUseTalentAtLocation" 2 void [talent, location]
    "void ActionUseTalentAtLocation(talent tChosenTalent, location lTargetLocation);",
  declare 311 "GetGoldPieceValue" 1 int [object]
    "int GetGoldPieceValue(object oItem);",
  declare 312 "GetIsPlayableRacialType" 1 int [object]
    "int GetIsPlayableRacialType(object oCreature);",
  declare 313 "JumpToLocation" 1 void [location]
    "void JumpToLocation(location lDestination);",
  declare 314 "EffectTemporaryHitpoints" 1 effect [int]
    "effect EffectTemporaryHitpoints(int nHitPoints);",
  declare 315 "GetSkillRank" 1 int [int, object]
    "int GetSkillRank(int nSkill, object oTarget=OBJECT_SELF);",
  declare 316 "GetAttackTarget" 0 object [object]
    "object GetAttackTarget(object oCreature=OBJECT_SELF);",
  declare 317 "GetLastAttackType" 0 int [object]
    "int GetLastAttackType(object oCreature=OBJECT_SELF);",
  declare 318 "GetLastAttackMode" 0 int [object]
    "int GetLastAttackMode(object oCreature=OBJECT_SELF);",
  declare 319 "GetMaster" 0 object [object]
    "object GetMaster(object oAssociate=OBJECT_SELF);",
  declare 320 "GetIsInCombat" 0 int [object]
    "int GetIsInCombat(object oCreature=OBJECT_SELF);",
  declare 321 "GetLastAssociateCommand" 0 int [object]
    "int GetLastAssociateCommand(object oAssociate=OBJECT_SELF);",
  declare 322 "GiveGoldToCreature" 2 void [object, int]
    "void GiveGoldToCreature(object oCreature, int nGP);",
  declare 323 "SetIsDestroyable" 1 void [int, int, int]
    "void SetIsDestroyable(int bDestroyable, int bRaiseable=TRUE, int bSelectableWhenDead=FALSE);",
  declare 324 "SetLocked" 2 void [object, int]
    "void SetLocked(object oTarget, int bLocked);",
  declare 325 "GetLocked" 1 int [object]
    "int GetLocked(object oTarget);",
  declare 326 "GetClickingObject" 0 object []
    "object GetClickingObject();",
  declare 327 "SetAssociateListenPatterns" 0 void [object]
    "void SetAssociateListenPatterns(object oTarget=OBJECT_SELF);",
  declare 328 "GetLastWeaponUsed" 1 object [object]
    "object GetLastWeaponUsed(object oCreature);",
  declare 329 "ActionInteractObject" 1 void [object]
    "void ActionInteractObject(object oPlaceable);",
  declare 330 "GetLastUsedBy" 0 object []
    "object GetLastUsedBy();",
  declare 331 "GetAbilityModifier" 1 int [int, object]
    "int GetAbilityModifier(int nAbility, object oCreature=OBJECT_SELF);",
  declare 332 "GetIdentified" 1 int [object]
    "int GetIdentified(object oItem);",
  declare 333 "SetIdentified" 2 void [object, int]
    "void SetIdentified(object oItem, int bIdentified);",
  declare 334 "SummonAnimalCompanion" 0 void [object]
    "void SummonAnimalCompanion(object oMaster=OBJECT_SELF);",
  declare 335 "SummonFamiliar" 0 void [object]
    "void SummonFamiliar(object oMaster=OBJECT_SELF);",
  declare 336 "GetBlockingDoor" 0 object []
    "object GetBlockingDoor();",
  declare 337 "GetIsDoorActionPossible" 2 int [object, int]
    "int GetIsDoorActionPossible(object oTargetDoor, int nDoorAction);",
  declare 338 "DoDoorAction" 2 void [object, int]
    "void DoDoorAction(object oTargetDoor, int nDoorAction);",
  declare 339 "GetFirstItemInInventory" 0 object [object]
    "object GetFirstItemInInventory(object oTarget=OBJECT_SELF);",
  declare 340 "GetNextItemInInventory" 0 object [object]
    "object GetNextItemInInventory(object oTarget=OBJECT_SELF);",
  declare 341 "GetClassByPosition" 1 int [int, object]
    "int GetClassByPosition(int nClassPosition, object oCreature=OBJECT_SELF);",
  declare 342 "GetLevelByPosition" 1 int [int, object]
    "int GetLevelByPosition(int nClassPosition, object oCreature=OBJECT_SELF);",
  declare 343 "GetLevelByClass" 1 int [int, object]
    "int GetLevelByClass(int nClassType, object oCreature=OBJECT_SELF);",
  declare 344 "GetDamageDealtByType" 1 int [int]
    "int GetDamageDealtByType(int nDamageType);",
  declare 345 "GetTotalDamageDealt" 0 int []
    "int GetTotalDamageDealt();",
  declare 346 "GetLastDamager" 0 object [object]
    "object GetLastDamager(object oObject=OBJECT_SELF);",
  declare 347 "GetLastDisarmed" 0 object []
    "object GetLastDisarmed();",
  declare 348 "GetLastDisturbed" 0 object []
    "object GetLastDisturbed();",
  declare 349 "GetLastLocked" 0 object []
    "object GetLastLocked();",
  declare 350 "GetLastUnlocked" 0 object []
    "object GetLastUnlocked();",
  declare 351 "EffectSkillIncrease" 2 effect [int, int]
    "effect EffectSkillIncrease(int nSkill, int nValue);",
  declare 352 "GetInventoryDisturbType" 0 int []
    "int GetInventoryDisturbType();",
  declare 353 "GetInventoryDisturbItem" 0 object []
    "object GetInventoryDisturbItem();",
  declare 354 "GetHenchman" 0 object [object, int]
    "object GetHenchman(object oMaster=OBJECT_SELF, int nNth=1);",
  declare 355 "VersusAlignmentEffect" 1 effect [effect, int, int]
    "effect VersusAlignmentEffect(effect eEffect, int nLawChaos=ALIGNMENT_ALL, int nGoodEvil=ALIGNMENT_ALL);",
  declare 356 "VersusRacialTypeEffect" 2 effect [effect, int]
    "effect VersusRacialTypeEffect(effect eEffect, int nRacialType);",
  declare 357 "VersusTrapEffect" 1 effect [effect]
    "effect VersusTrapEffect(effect eEffect);",
  declare 358 "GetGender" 1 int [object]
    "int GetGender(object oCreature);",
  declare 359 "GetIsTalentValid" 1 int [talent]
    "int GetIsTalentValid(talent tTalent);",
  declare 360 "ActionMoveAwayFromLocation" 1 void [location, int, float]
    "void ActionMoveAwayFromLocation(location lMoveAwayFrom, int bRun=FALSE, float fMoveAwayRange=40.0f);",
  declare 361 "GetAttemptedAttackTarget" 0 object []
    "object GetAttemptedAttackTarget();",
  declare 362 "GetTypeFromTalent" 1 int [talent]
    "int GetTypeFromTalent(talent tTalent);",
  declare 363 "GetIdFromTalent" 1 int [talent]
    "int GetIdFromTalent(talent tTalent);",
  declare 364 "GetAssociate" 1 object [int, object, int]
    "object GetAssociate(int nAssociateType, object oMaster=OBJECT_SELF, int nTh=1);",
  declare 365 "AddHenchman" 1 void [object, object]
    "void AddHenchman(object oMaster, object oHenchman=OBJECT_SELF);",
  declare 366 "RemoveHenchman" 1 void [object, object]
    "void RemoveHenchman(object oMaster, object oHenchman=OBJECT_SELF);",
  declare 367 "AddJournalQuestEntry" 3 void [string, int, object, int, int, int]
    "void AddJournalQuestEntry(string szPlotID, int nState, object oCreature, int bAllPartyMembers=TRUE, int bAllPlayers=FALSE, int bAllowOverrideHigher=FALSE);",
  declare 368 "RemoveJournalQuestEntry" 2 void [string, object, int, int]
    "void RemoveJournalQuestEntry(string szPlotID, object oCreature, int bAllPartyMembers=TRUE, int bAllPlayers=FALSE);",
  declare 369 "GetPCPublicCDKey" 1 string [object, int]
    "string GetPCPublicCDKey(object oPlayer, int nSinglePlayerCDKey=FALSE);",
  declare 370 "GetPCIPAddress" 1 string [object]
    "string GetPCIPAddress(object oPlayer);",
  declare 371 "GetPCPlayerName" 1 string [object]
    "string GetPCPlayerName(object oPlayer);",
  declare 372 "SetPCLike" 2 void [object, object]
    "void SetPCLike(object oPlayer, object oTarget);",
  declare 373 "SetPCDislike" 2 void [object, object]
    "void SetPCDislike(object oPlayer, object oTarget);",
  declare 374 "SendMessageToPC" 2 void [object, string]
    "void SendMessageToPC(object oPlayer, string szMessage);",
  declare 375 "GetAttemptedSpellTarget" 0 object []
    "object GetAttemptedSpellTarget();",
  declare 376 "GetLastOpenedBy" 0 object []
    "object GetLastOpenedBy();",
  declare 377 "GetHasSpell" 1 int [int, object]
    "int GetHasSpell(int nSpell, object oCreature=OBJECT_SELF);",
  declare 378 "OpenStore" 2 void [object, object, int, int]
    "void OpenStore(object oStore, object oPC, int nBonusMarkUp=0, int nBonusMarkDown=0);",
  declare 379 "EffectTurned" 0 effect []
    "effect EffectTurned();",
  declare 380 "GetFirstFactionMember" 1 object [object, int]
    "object GetFirstFactionMember(object oMemberOfFaction, int bPCOnly=TRUE);",
  declare 381 "GetNextFactionMember" 1 object [object, int]
    "object GetNextFactionMember(object oMemberOfFaction, int bPCOnly=TRUE);",
  declare 382 "ActionForceMoveToLocation" 1 void [location, int, float]
    "void ActionForceMoveToLocation(location lDestination, int bRun=FALSE, float fTimeout=30.0f);",
  declare 383 "ActionForceMoveToObject" 1 void [object, int, float, float]
    "void ActionForceMoveToObject(object oMoveTo, int bRun=FALSE, float fRange=1.0f, float fTimeout=30.0f);",
  declare 384 "GetJournalQuestExperience" 1 int [string]
    "int GetJournalQuestExperience(string szPlotID);",
  declare 385 "JumpToObject" 1 void [object, int]
    "void JumpToObject(object oToJumpTo, int nWalkStraightLineToPoint=1);",
  declare 386 "SetMapPinEnabled" 2 void [object, int]
    "void SetMapPinEnabled(object oMapPin, int nEnabled);",
  declare 387 "EffectHitPointChangeWhenDying" 1 effect [float]
    "effect EffectHitPointChangeWhenDying(float fHitPointChangePerRound);",
  declare 388 "PopUpGUIPanel" 2 void [object, int]
    "void PopUpGUIPanel(object oPC, int nGUIPanel);",
  declare 389 "ClearPersonalReputation" 1 void [object, object]
    "void ClearPersonalReputation(object oTarget, object oSource=OBJECT_SELF);",
  declare 390 "SetIsTemporaryFriend" 1 void [object, object, int, float]
    "void SetIsTemporaryFriend(object oTarget, object oSource=OBJECT_SELF, int bDecays=FALSE, float fDurationInSeconds=180.0f);",
  declare 391 "SetIsTemporaryEnemy" 1 void [object, object, int, float]
    "void SetIsTemporaryEnemy(object oTarget, object oSource=OBJECT_SELF, int bDecays=FALSE, float fDurationInSeconds=180.0f);",
  declare 392 "SetIsTemporaryNeutral" 1 void [object, object, int, float]
    "void SetIsTemporaryNeutral(object oTarget, object oSource=OBJECT_SELF, int bDecays=FALSE, float fDurationInSeconds=180.0f);",
  declare 393 "GiveXPToCreature" 2 void [object, int]
    "void GiveXPToCreature(object oCreature, int nXpAmount);",
  declare 394 "SetXP" 2 void [object, int]
    "void SetXP(object oCreature, int nXpAmount);",
  declare 395 "GetXP" 1 int [object]
    "int GetXP(object oCreature);",
  declare 396 "IntToHexString" 1 string [int]
    "string IntToHexString(int nInteger);",
  declare 397 "GetBaseItemType" 1 int [object]
    "int GetBaseItemType(object oItem);",
  declare 398 "GetItemHasItemProperty" 2 int [object, int]
    "int GetItemHasItemProperty(object oItem, int nProperty);",
  declare 399 "ActionEquipMostDamagingMelee" 0 void [object, int]
    "void ActionEquipMostDamagingMelee(object oVersus=OBJECT_INVALID, int bOffHand=FALSE);",
  declare 400 "ActionEquipMostDamagingRanged" 0 void [object]
    "void ActionEquipMostDamagingRanged(object oVersus=OBJECT_INVALID);",
  declare 401 "GetItemACValue" 1 int [object]
    "int GetItemACValue(object oItem);",
  declare 402 "ActionRest" 0 void [int]
    "void ActionRest(int bCreatureToEnemyLineOfSightCheck=FALSE);",
  declare 403 "ExploreAreaForPlayer" 2 void [object, object, int]
    "void ExploreAreaForPlayer(object oArea, object oPlayer, int bExplored=TRUE);",
  declare 404 "ActionEquipMostEffectiveArmor" 0 void []
    "void ActionEquipMostEffectiveArmor();",
  declare 405 "GetIsDay" 0 int []
    "int GetIsDay();",
  declare 406 "GetIsNight" 0 int []
    "int GetIsNight();",
  declare 407 "GetIsDawn" 0 int []
    "int GetIsDawn();",
  declare 408 "GetIsDusk" 0 int []
    "int GetIsDusk();",
  declare 409 "GetIsEncounterCreature" 0 int [object]
    "int GetIsEncounterCreature(object oCreature=OBJECT_SELF);",
  declare 410 "GetLastPlayerDying" 0 object []
    "object GetLastPlayerDying();",
  declare 411 "GetStartingLocation" 0 location []
    "location GetStartingLocation();",
  declare 412 "ChangeToStandardFaction" 2 void [object, int]
    "void ChangeToStandardFaction(object oCreatureToChange, int nStandardFaction);",
  declare 413 "SoundObjectPlay" 1 void [object]
    "void SoundObjectPlay(object oSound);",
  declare 414 "SoundObjectStop" 1 void [object]
    "void SoundObjectStop(object oSound);",
  declare 415 "SoundObjectSetVolume" 2 void [object, int]
    "void SoundObjectSetVolume(object oSound, int nVolume);",
  declare 416 "SoundObjectSetPosition" 2 void [object, vector]
    "void SoundObjectSetPosition(object oSound, vector vPosition);",
  declare 417 "SpeakOneLinerConversation" 0 void [string, object, int]
    "void SpeakOneLinerConversation(string sDialogResRef=\"\", object oTokenTarget=OBJECT_TYPE_INVALID, int nTalkVolume=TALKVOLUME_TALK);",
  declare 418 "GetGold" 0 int [object]
    "int GetGold(object oTarget=OBJECT_SELF);",
  declare 419 "GetLastRespawnButtonPresser" 0 object []
    "object GetLastRespawnButtonPresser();",
  declare 420 "GetIsDM" 1 int [object]
    "int GetIsDM(object oCreature);",
  declare 421 "PlayVoiceChat" 1 void [int, object]
    "void PlayVoiceChat(int nVoiceChatID, object oTarget=OBJECT_SELF);",
  declare 422 "GetIsWeaponEffective" 0 int [object, int]
    "int GetIsWeaponEffective(object oVersus=OBJECT_INVALID, int bOffHand=FALSE);",
  declare 423 "GetLastSpellHarmful" 0 int []
    "int GetLastSpellHarmful();"]

end EngineActions.Shipped
