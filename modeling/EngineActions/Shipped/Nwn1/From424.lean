import EngineActions.Action

namespace EngineActions.Shipped
open ValueType

def nwn1From424 : List Declaration := [
  declare 424 "EventActivateItem" 2 event [object, location, object]
    "event EventActivateItem(object oItem, location lTarget, object oTarget=OBJECT_INVALID);",
  declare 425 "MusicBackgroundPlay" 1 void [object]
    "void MusicBackgroundPlay(object oArea);",
  declare 426 "MusicBackgroundStop" 1 void [object]
    "void MusicBackgroundStop(object oArea);",
  declare 427 "MusicBackgroundSetDelay" 2 void [object, int]
    "void MusicBackgroundSetDelay(object oArea, int nDelay);",
  declare 428 "MusicBackgroundChangeDay" 2 void [object, int]
    "void MusicBackgroundChangeDay(object oArea, int nTrack);",
  declare 429 "MusicBackgroundChangeNight" 2 void [object, int]
    "void MusicBackgroundChangeNight(object oArea, int nTrack);",
  declare 430 "MusicBattlePlay" 1 void [object]
    "void MusicBattlePlay(object oArea);",
  declare 431 "MusicBattleStop" 1 void [object]
    "void MusicBattleStop(object oArea);",
  declare 432 "MusicBattleChange" 2 void [object, int]
    "void MusicBattleChange(object oArea, int nTrack);",
  declare 433 "AmbientSoundPlay" 1 void [object]
    "void AmbientSoundPlay(object oArea);",
  declare 434 "AmbientSoundStop" 1 void [object]
    "void AmbientSoundStop(object oArea);",
  declare 435 "AmbientSoundChangeDay" 2 void [object, int]
    "void AmbientSoundChangeDay(object oArea, int nTrack);",
  declare 436 "AmbientSoundChangeNight" 2 void [object, int]
    "void AmbientSoundChangeNight(object oArea, int nTrack);",
  declare 437 "GetLastKiller" 0 object []
    "object GetLastKiller();",
  declare 438 "GetSpellCastItem" 0 object []
    "object GetSpellCastItem();",
  declare 439 "GetItemActivated" 0 object []
    "object GetItemActivated();",
  declare 440 "GetItemActivator" 0 object []
    "object GetItemActivator();",
  declare 441 "GetItemActivatedTargetLocation" 0 location []
    "location GetItemActivatedTargetLocation();",
  declare 442 "GetItemActivatedTarget" 0 object []
    "object GetItemActivatedTarget();",
  declare 443 "GetIsOpen" 1 int [object]
    "int GetIsOpen(object oObject);",
  declare 444 "TakeGoldFromCreature" 2 void [int, object, int]
    "void TakeGoldFromCreature(int nAmount, object oCreatureToTakeFrom, int bDestroy=FALSE);",
  declare 445 "IsInConversation" 1 int [object]
    "int IsInConversation(object oObject);",
  declare 446 "EffectAbilityDecrease" 2 effect [int, int]
    "effect EffectAbilityDecrease(int nAbility, int nModifyBy);",
  declare 447 "EffectAttackDecrease" 1 effect [int, int]
    "effect EffectAttackDecrease(int nPenalty, int nModifierType=ATTACK_BONUS_MISC);",
  declare 448 "EffectDamageDecrease" 1 effect [int, int]
    "effect EffectDamageDecrease(int nPenalty, int nDamageType=DAMAGE_TYPE_MAGICAL);",
  declare 449 "EffectDamageImmunityDecrease" 2 effect [int, int]
    "effect EffectDamageImmunityDecrease(int nDamageType, int nPercentImmunity);",
  declare 450 "EffectACDecrease" 1 effect [int, int, int]
    "effect EffectACDecrease(int nValue, int nModifyType=AC_DODGE_BONUS, int nDamageType=AC_VS_DAMAGE_TYPE_ALL);",
  declare 451 "EffectMovementSpeedDecrease" 1 effect [int]
    "effect EffectMovementSpeedDecrease(int nPercentChange);",
  declare 452 "EffectSavingThrowDecrease" 2 effect [int, int, int]
    "effect EffectSavingThrowDecrease(int nSave, int nValue, int nSaveType=SAVING_THROW_TYPE_ALL);",
  declare 453 "EffectSkillDecrease" 2 effect [int, int]
    "effect EffectSkillDecrease(int nSkill, int nValue);",
  declare 454 "EffectSpellResistanceDecrease" 1 effect [int]
    "effect EffectSpellResistanceDecrease(int nValue);",
  declare 455 "GetPlotFlag" 0 int [object]
    "int GetPlotFlag(object oTarget=OBJECT_SELF);",
  declare 456 "SetPlotFlag" 2 void [object, int]
    "void SetPlotFlag(object oTarget, int nPlotFlag);",
  declare 457 "EffectInvisibility" 1 effect [int]
    "effect EffectInvisibility(int nInvisibilityType);",
  declare 458 "EffectConcealment" 1 effect [int, int]
    "effect EffectConcealment(int nPercentage, int nMissType=MISS_CHANCE_TYPE_NORMAL);",
  declare 459 "EffectDarkness" 0 effect []
    "effect EffectDarkness();",
  declare 460 "EffectDispelMagicAll" 0 effect [int]
    "effect EffectDispelMagicAll(int nCasterLevel=USE_CREATURE_LEVEL);",
  declare 461 "EffectUltravision" 0 effect []
    "effect EffectUltravision();",
  declare 462 "EffectNegativeLevel" 1 effect [int, int]
    "effect EffectNegativeLevel(int nNumLevels, int bHPBonus=FALSE);",
  declare 463 "EffectPolymorph" 1 effect [int, int]
    "effect EffectPolymorph(int nPolymorphSelection, int nLocked=FALSE);",
  declare 464 "EffectSanctuary" 1 effect [int]
    "effect EffectSanctuary(int nDifficultyClass);",
  declare 465 "EffectTrueSeeing" 0 effect []
    "effect EffectTrueSeeing();",
  declare 466 "EffectSeeInvisible" 0 effect []
    "effect EffectSeeInvisible();",
  declare 467 "EffectTimeStop" 0 effect []
    "effect EffectTimeStop();",
  declare 468 "EffectBlindness" 0 effect []
    "effect EffectBlindness();",
  declare 469 "GetIsReactionTypeFriendly" 1 int [object, object]
    "int GetIsReactionTypeFriendly(object oTarget, object oSource=OBJECT_SELF);",
  declare 470 "GetIsReactionTypeNeutral" 1 int [object, object]
    "int GetIsReactionTypeNeutral(object oTarget, object oSource=OBJECT_SELF);",
  declare 471 "GetIsReactionTypeHostile" 1 int [object, object]
    "int GetIsReactionTypeHostile(object oTarget, object oSource=OBJECT_SELF);",
  declare 472 "EffectSpellLevelAbsorption" 1 effect [int, int, int]
    "effect EffectSpellLevelAbsorption(int nMaxSpellLevelAbsorbed, int nTotalSpellLevelsAbsorbed=0, int nSpellSchool=SPELL_SCHOOL_GENERAL);",
  declare 473 "EffectDispelMagicBest" 0 effect [int]
    "effect EffectDispelMagicBest(int nCasterLevel=USE_CREATURE_LEVEL);",
  declare 474 "ActivatePortal" 1 void [object, string, string, string, int]
    "void ActivatePortal(object oTarget, string sIPaddress=\"\", string sPassword=\"\", string sWaypointTag=\"\", int bSeemless=FALSE);",
  declare 475 "GetNumStackedItems" 1 int [object]
    "int GetNumStackedItems(object oItem);",
  declare 476 "SurrenderToEnemies" 0 void []
    "void SurrenderToEnemies();",
  declare 477 "EffectMissChance" 1 effect [int, int]
    "effect EffectMissChance(int nPercentage, int nMissChanceType=MISS_CHANCE_TYPE_NORMAL);",
  declare 478 "GetTurnResistanceHD" 0 int [object]
    "int GetTurnResistanceHD(object oUndead=OBJECT_SELF);",
  declare 479 "GetCreatureSize" 1 int [object]
    "int GetCreatureSize(object oCreature);",
  declare 480 "EffectDisappearAppear" 1 effect [location, int]
    "effect EffectDisappearAppear(location lLocation, int nAnimation=1);",
  declare 481 "EffectDisappear" 0 effect [int]
    "effect EffectDisappear(int nAnimation=1);",
  declare 482 "EffectAppear" 0 effect [int]
    "effect EffectAppear(int nAnimation=1);",
  declare 483 "ActionUnlockObject" 1 void [object]
    "void ActionUnlockObject(object oTarget);",
  declare 484 "ActionLockObject" 1 void [object]
    "void ActionLockObject(object oTarget);",
  declare 485 "EffectModifyAttacks" 1 effect [int]
    "effect EffectModifyAttacks(int nAttacks);",
  declare 486 "GetLastTrapDetected" 0 object [object]
    "object GetLastTrapDetected(object oTarget=OBJECT_SELF);",
  declare 487 "EffectDamageShield" 3 effect [int, int, int]
    "effect EffectDamageShield(int nDamageAmount, int nRandomAmount, int nDamageType);",
  declare 488 "GetNearestTrapToObject" 0 object [object, int]
    "object GetNearestTrapToObject(object oTarget=OBJECT_SELF, int nTrapDetected=TRUE);",
  declare 489 "GetDeity" 1 string [object]
    "string GetDeity(object oCreature);",
  declare 490 "GetSubRace" 1 string [object]
    "string GetSubRace(object oTarget);",
  declare 491 "GetFortitudeSavingThrow" 1 int [object]
    "int GetFortitudeSavingThrow(object oTarget);",
  declare 492 "GetWillSavingThrow" 1 int [object]
    "int GetWillSavingThrow(object oTarget);",
  declare 493 "GetReflexSavingThrow" 1 int [object]
    "int GetReflexSavingThrow(object oTarget);",
  declare 494 "GetChallengeRating" 1 float [object]
    "float GetChallengeRating(object oCreature);",
  declare 495 "GetAge" 1 int [object]
    "int GetAge(object oCreature);",
  declare 496 "GetMovementRate" 1 int [object]
    "int GetMovementRate(object oCreature);",
  declare 497 "GetFamiliarCreatureType" 1 int [object]
    "int GetFamiliarCreatureType(object oCreature);",
  declare 498 "GetAnimalCompanionCreatureType" 1 int [object]
    "int GetAnimalCompanionCreatureType(object oCreature);",
  declare 499 "GetFamiliarName" 1 string [object]
    "string GetFamiliarName(object oCreature);",
  declare 500 "GetAnimalCompanionName" 1 string [object]
    "string GetAnimalCompanionName(object oTarget);",
  declare 501 "ActionCastFakeSpellAtObject" 2 void [int, object, int]
    "void ActionCastFakeSpellAtObject(int nSpell, object oTarget, int nProjectilePathType=PROJECTILE_PATH_TYPE_DEFAULT);",
  declare 502 "ActionCastFakeSpellAtLocation" 2 void [int, location, int]
    "void ActionCastFakeSpellAtLocation(int nSpell, location lTarget, int nProjectilePathType=PROJECTILE_PATH_TYPE_DEFAULT);",
  declare 503 "RemoveSummonedAssociate" 1 void [object, object]
    "void RemoveSummonedAssociate(object oMaster, object oAssociate=OBJECT_SELF);",
  declare 504 "SetCameraMode" 2 void [object, int]
    "void SetCameraMode(object oPlayer, int nCameraMode);",
  declare 505 "GetIsResting" 0 int [object]
    "int GetIsResting(object oCreature=OBJECT_SELF);",
  declare 506 "GetLastPCRested" 0 object []
    "object GetLastPCRested();",
  declare 507 "SetWeather" 2 void [object, int]
    "void SetWeather(object oTarget, int nWeather);",
  declare 508 "GetLastRestEventType" 0 int []
    "int GetLastRestEventType();",
  declare 509 "StartNewModule" 1 void [string]
    "void StartNewModule(string sModuleName);",
  declare 510 "EffectSwarm" 2 effect [int, string, string, string, string]
    "effect EffectSwarm(int nLooping, string sCreatureTemplate1, string sCreatureTemplate2=\"\", string sCreatureTemplate3=\"\", string sCreatureTemplate4=\"\");",
  declare 511 "GetWeaponRanged" 1 int [object]
    "int GetWeaponRanged(object oItem);",
  declare 512 "DoSinglePlayerAutoSave" 0 void []
    "void DoSinglePlayerAutoSave();",
  declare 513 "GetGameDifficulty" 0 int []
    "int GetGameDifficulty();",
  declare 514 "SetTileMainLightColor" 3 void [location, int, int]
    "void SetTileMainLightColor(location lTileLocation, int nMainLight1Color, int nMainLight2Color);",
  declare 515 "SetTileSourceLightColor" 3 void [location, int, int]
    "void SetTileSourceLightColor(location lTileLocation, int nSourceLight1Color, int nSourceLight2Color);",
  declare 516 "RecomputeStaticLighting" 1 void [object]
    "void RecomputeStaticLighting(object oArea);",
  declare 517 "GetTileMainLight1Color" 1 int [location]
    "int GetTileMainLight1Color(location lTile);",
  declare 518 "GetTileMainLight2Color" 1 int [location]
    "int GetTileMainLight2Color(location lTile);",
  declare 519 "GetTileSourceLight1Color" 1 int [location]
    "int GetTileSourceLight1Color(location lTile);",
  declare 520 "GetTileSourceLight2Color" 1 int [location]
    "int GetTileSourceLight2Color(location lTile);",
  declare 521 "SetPanelButtonFlash" 3 void [object, int, int]
    "void SetPanelButtonFlash(object oPlayer, int nButton, int nEnableFlash);",
  declare 522 "GetCurrentAction" 0 int [object]
    "int GetCurrentAction(object oObject=OBJECT_SELF);",
  declare 523 "SetStandardFactionReputation" 2 void [int, int, object]
    "void SetStandardFactionReputation(int nStandardFaction, int nNewReputation, object oCreature=OBJECT_SELF);",
  declare 524 "GetStandardFactionReputation" 1 int [int, object]
    "int GetStandardFactionReputation(int nStandardFaction, object oCreature=OBJECT_SELF);",
  declare 525 "FloatingTextStrRefOnCreature" 2 void [int, object, int]
    "void FloatingTextStrRefOnCreature(int nStrRefToDisplay, object oCreatureToFloatAbove, int bBroadcastToFaction=TRUE);",
  declare 526 "FloatingTextStringOnCreature" 2 void [string, object, int]
    "void FloatingTextStringOnCreature(string sStringToDisplay, object oCreatureToFloatAbove, int bBroadcastToFaction=TRUE);",
  declare 527 "GetTrapDisarmable" 1 int [object]
    "int GetTrapDisarmable(object oTrapObject);",
  declare 528 "GetTrapDetectable" 1 int [object]
    "int GetTrapDetectable(object oTrapObject);",
  declare 529 "GetTrapDetectedBy" 2 int [object, object]
    "int GetTrapDetectedBy(object oTrapObject, object oCreature);",
  declare 530 "GetTrapFlagged" 1 int [object]
    "int GetTrapFlagged(object oTrapObject);",
  declare 531 "GetTrapBaseType" 1 int [object]
    "int GetTrapBaseType(object oTrapObject);",
  declare 532 "GetTrapOneShot" 1 int [object]
    "int GetTrapOneShot(object oTrapObject);",
  declare 533 "GetTrapCreator" 1 object [object]
    "object GetTrapCreator(object oTrapObject);",
  declare 534 "GetTrapKeyTag" 1 string [object]
    "string GetTrapKeyTag(object oTrapObject);",
  declare 535 "GetTrapDisarmDC" 1 int [object]
    "int GetTrapDisarmDC(object oTrapObject);",
  declare 536 "GetTrapDetectDC" 1 int [object]
    "int GetTrapDetectDC(object oTrapObject);",
  declare 537 "GetLockKeyRequired" 1 int [object]
    "int GetLockKeyRequired(object oObject);",
  declare 538 "GetLockKeyTag" 1 string [object]
    "string GetLockKeyTag(object oObject);",
  declare 539 "GetLockLockable" 1 int [object]
    "int GetLockLockable(object oObject);",
  declare 540 "GetLockUnlockDC" 1 int [object]
    "int GetLockUnlockDC(object oObject);",
  declare 541 "GetLockLockDC" 1 int [object]
    "int GetLockLockDC(object oObject);",
  declare 542 "GetPCLevellingUp" 0 object []
    "object GetPCLevellingUp();",
  declare 543 "GetHasFeatEffect" 1 int [int, object]
    "int GetHasFeatEffect(int nFeat, object oObject=OBJECT_SELF);",
  declare 544 "SetPlaceableIllumination" 0 void [object, int]
    "void SetPlaceableIllumination(object oPlaceable=OBJECT_SELF, int bIlluminate=TRUE);",
  declare 545 "GetPlaceableIllumination" 0 int [object]
    "int GetPlaceableIllumination(object oPlaceable=OBJECT_SELF);",
  declare 546 "GetIsPlaceableObjectActionPossible" 2 int [object, int]
    "int GetIsPlaceableObjectActionPossible(object oPlaceable, int nPlaceableAction);",
  declare 547 "DoPlaceableObjectAction" 2 void [object, int]
    "void DoPlaceableObjectAction(object oPlaceable, int nPlaceableAction);",
  declare 548 "GetFirstPC" 0 object []
    "object GetFirstPC();",
  declare 549 "GetNextPC" 0 object []
    "object GetNextPC();",
  declare 550 "SetTrapDetectedBy" 2 int [object, object, int]
    "int SetTrapDetectedBy(object oTrap, object oDetector, int bDetected=TRUE);",
  declare 551 "GetIsTrapped" 1 int [object]
    "int GetIsTrapped(object oObject);",
  declare 552 "EffectTurnResistanceDecrease" 1 effect [int]
    "effect EffectTurnResistanceDecrease(int nHitDice);",
  declare 553 "EffectTurnResistanceIncrease" 1 effect [int]
    "effect EffectTurnResistanceIncrease(int nHitDice);",
  declare 554 "PopUpDeathGUIPanel" 1 void [object, int, int, int, string]
    "void PopUpDeathGUIPanel(object oPC, int bRespawnButtonEnabled=TRUE, int bWaitForHelpButtonEnabled=TRUE, int nHelpStringReference=0, string sHelpString=\"\");",
  declare 555 "SetTrapDisabled" 1 void [object]
    "void SetTrapDisabled(object oTrap);",
  declare 556 "GetLastHostileActor" 0 object [object]
    "object GetLastHostileActor(object oVictim=OBJECT_SELF);",
  declare 557 "ExportAllCharacters" 0 void []
    "void ExportAllCharacters();",
  declare 558 "MusicBackgroundGetDayTrack" 1 int [object]
    "int MusicBackgroundGetDayTrack(object oArea);",
  declare 559 "MusicBackgroundGetNightTrack" 1 int [object]
    "int MusicBackgroundGetNightTrack(object oArea);",
  declare 560 "WriteTimestampedLogEntry" 1 void [string]
    "void WriteTimestampedLogEntry(string sLogEntry);",
  declare 561 "GetModuleName" 0 string []
    "string GetModuleName();",
  declare 562 "GetFactionLeader" 1 object [object]
    "object GetFactionLeader(object oMemberOfFaction);",
  declare 563 "SendMessageToAllDMs" 1 void [string]
    "void SendMessageToAllDMs(string szMessage);",
  declare 564 "EndGame" 1 void [string]
    "void EndGame(string sEndMovie);",
  declare 565 "BootPC" 1 void [object]
    "void BootPC(object oPlayer);",
  declare 566 "ActionCounterSpell" 1 void [object]
    "void ActionCounterSpell(object oCounterSpellTarget);",
  declare 567 "AmbientSoundSetDayVolume" 2 void [object, int]
    "void AmbientSoundSetDayVolume(object oArea, int nVolume);",
  declare 568 "AmbientSoundSetNightVolume" 2 void [object, int]
    "void AmbientSoundSetNightVolume(object oArea, int nVolume);",
  declare 569 "MusicBackgroundGetBattleTrack" 1 int [object]
    "int MusicBackgroundGetBattleTrack(object oArea);",
  declare 570 "GetHasInventory" 1 int [object]
    "int GetHasInventory(object oObject);",
  declare 571 "GetStrRefSoundDuration" 1 float [int]
    "float GetStrRefSoundDuration(int nStrRef);",
  declare 572 "AddToParty" 2 void [object, object]
    "void AddToParty(object oPC, object oPartyLeader);",
  declare 573 "RemoveFromParty" 1 void [object]
    "void RemoveFromParty(object oPC);",
  declare 574 "GetStealthMode" 1 int [object]
    "int GetStealthMode(object oCreature);",
  declare 575 "GetDetectMode" 1 int [object]
    "int GetDetectMode(object oCreature);",
  declare 576 "GetDefensiveCastingMode" 1 int [object]
    "int GetDefensiveCastingMode(object oCreature);",
  declare 577 "GetAppearanceType" 1 int [object]
    "int GetAppearanceType(object oCreature);",
  declare 578 "SpawnScriptDebugger" 0 void []
    "void SpawnScriptDebugger();",
  declare 579 "GetModuleItemAcquiredStackSize" 0 int []
    "int GetModuleItemAcquiredStackSize();",
  declare 580 "DecrementRemainingFeatUses" 2 void [object, int]
    "void DecrementRemainingFeatUses(object oCreature, int nFeat);",
  declare 581 "DecrementRemainingSpellUses" 2 void [object, int]
    "void DecrementRemainingSpellUses(object oCreature, int nSpell);",
  declare 582 "GetResRef" 1 string [object]
    "string GetResRef(object oObject);",
  declare 583 "EffectPetrify" 0 effect []
    "effect EffectPetrify();",
  declare 584 "CopyItem" 1 object [object, object, int]
    "object CopyItem(object oItem, object oTargetInventory=OBJECT_INVALID, int bCopyVars=FALSE);",
  declare 585 "EffectCutsceneParalyze" 0 effect []
    "effect EffectCutsceneParalyze();",
  declare 586 "GetDroppableFlag" 1 int [object]
    "int GetDroppableFlag(object oItem);",
  declare 587 "GetUseableFlag" 0 int [object]
    "int GetUseableFlag(object oObject=OBJECT_SELF);",
  declare 588 "GetStolenFlag" 1 int [object]
    "int GetStolenFlag(object oStolen);",
  declare 589 "SetCampaignFloat" 3 void [string, string, float, object]
    "void SetCampaignFloat(string sCampaignName, string sVarName, float flFloat, object oPlayer=OBJECT_INVALID);",
  declare 590 "SetCampaignInt" 3 void [string, string, int, object]
    "void SetCampaignInt(string sCampaignName, string sVarName, int nInt, object oPlayer=OBJECT_INVALID);",
  declare 591 "SetCampaignVector" 3 void [string, string, vector, object]
    "void SetCampaignVector(string sCampaignName, string sVarName, vector vVector, object oPlayer=OBJECT_INVALID);",
  declare 592 "SetCampaignLocation" 3 void [string, string, location, object]
    "void SetCampaignLocation(string sCampaignName, string sVarName, location locLocation, object oPlayer=OBJECT_INVALID);",
  declare 593 "SetCampaignString" 3 void [string, string, string, object]
    "void SetCampaignString(string sCampaignName, string sVarName, string sString, object oPlayer=OBJECT_INVALID);",
  declare 594 "DestroyCampaignDatabase" 1 void [string]
    "void DestroyCampaignDatabase(string sCampaignName);",
  declare 595 "GetCampaignFloat" 2 float [string, string, object]
    "float GetCampaignFloat(string sCampaignName, string sVarName, object oPlayer=OBJECT_INVALID);",
  declare 596 "GetCampaignInt" 2 int [string, string, object]
    "int GetCampaignInt(string sCampaignName, string sVarName, object oPlayer=OBJECT_INVALID);",
  declare 597 "GetCampaignVector" 2 vector [string, string, object]
    "vector GetCampaignVector(string sCampaignName, string sVarName, object oPlayer=OBJECT_INVALID);",
  declare 598 "GetCampaignLocation" 2 location [string, string, object]
    "location GetCampaignLocation(string sCampaignName, string sVarName, object oPlayer=OBJECT_INVALID);",
  declare 599 "GetCampaignString" 2 string [string, string, object]
    "string GetCampaignString(string sCampaignName, string sVarName, object oPlayer=OBJECT_INVALID);",
  declare 600 "CopyObject" 2 object [object, location, object, string]
    "object CopyObject(object oSource, location locLocation, object oOwner=OBJECT_INVALID, string sNewTag=\"\");",
  declare 601 "DeleteCampaignVariable" 2 void [string, string, object]
    "void DeleteCampaignVariable(string sCampaignName, string sVarName, object oPlayer=OBJECT_INVALID);",
  declare 602 "StoreCampaignObject" 3 int [string, string, object, object]
    "int StoreCampaignObject(string sCampaignName, string sVarName, object oObject, object oPlayer=OBJECT_INVALID);",
  declare 603 "RetrieveCampaignObject" 3 object [string, string, location, object, object]
    "object RetrieveCampaignObject(string sCampaignName, string sVarName, location locLocation, object oOwner=OBJECT_INVALID, object oPlayer=OBJECT_INVALID);",
  declare 604 "EffectCutsceneDominated" 0 effect []
    "effect EffectCutsceneDominated();",
  declare 605 "GetItemStackSize" 1 int [object]
    "int GetItemStackSize(object oItem);",
  declare 606 "SetItemStackSize" 2 void [object, int]
    "void SetItemStackSize(object oItem, int nSize);",
  declare 607 "GetItemCharges" 1 int [object]
    "int GetItemCharges(object oItem);",
  declare 608 "SetItemCharges" 2 void [object, int]
    "void SetItemCharges(object oItem, int nCharges);",
  declare 609 "AddItemProperty" 3 void [int, itemProperty, object, float]
    "void AddItemProperty(int nDurationType, itemproperty ipProperty, object oItem, float fDuration=0.0f);",
  declare 610 "RemoveItemProperty" 2 void [object, itemProperty]
    "void RemoveItemProperty(object oItem, itemproperty ipProperty);",
  declare 611 "GetIsItemPropertyValid" 1 int [itemProperty]
    "int GetIsItemPropertyValid(itemproperty ipProperty);",
  declare 612 "GetFirstItemProperty" 1 itemProperty [object]
    "itemproperty GetFirstItemProperty(object oItem);",
  declare 613 "GetNextItemProperty" 1 itemProperty [object]
    "itemproperty GetNextItemProperty(object oItem);",
  declare 614 "GetItemPropertyType" 1 int [itemProperty]
    "int GetItemPropertyType(itemproperty ip);",
  declare 615 "GetItemPropertyDurationType" 1 int [itemProperty]
    "int GetItemPropertyDurationType(itemproperty ip);",
  declare 616 "ItemPropertyAbilityBonus" 2 itemProperty [int, int]
    "itemproperty ItemPropertyAbilityBonus(int nAbility, int nBonus);",
  declare 617 "ItemPropertyACBonus" 1 itemProperty [int]
    "itemproperty ItemPropertyACBonus(int nBonus);",
  declare 618 "ItemPropertyACBonusVsAlign" 2 itemProperty [int, int]
    "itemproperty ItemPropertyACBonusVsAlign(int nAlignGroup, int nACBonus);",
  declare 619 "ItemPropertyACBonusVsDmgType" 2 itemProperty [int, int]
    "itemproperty ItemPropertyACBonusVsDmgType(int nDamageType, int nACBonus);",
  declare 620 "ItemPropertyACBonusVsRace" 2 itemProperty [int, int]
    "itemproperty ItemPropertyACBonusVsRace(int nRace, int nACBonus);",
  declare 621 "ItemPropertyACBonusVsSAlign" 2 itemProperty [int, int]
    "itemproperty ItemPropertyACBonusVsSAlign(int nAlign, int nACBonus);",
  declare 622 "ItemPropertyEnhancementBonus" 1 itemProperty [int]
    "itemproperty ItemPropertyEnhancementBonus(int nEnhancementBonus);",
  declare 623 "ItemPropertyEnhancementBonusVsAlign" 2 itemProperty [int, int]
    "itemproperty ItemPropertyEnhancementBonusVsAlign(int nAlignGroup, int nBonus);",
  declare 624 "ItemPropertyEnhancementBonusVsRace" 2 itemProperty [int, int]
    "itemproperty ItemPropertyEnhancementBonusVsRace(int nRace, int nBonus);",
  declare 625 "ItemPropertyEnhancementBonusVsSAlign" 2 itemProperty [int, int]
    "itemproperty ItemPropertyEnhancementBonusVsSAlign(int nAlign, int nBonus);",
  declare 626 "ItemPropertyEnhancementPenalty" 1 itemProperty [int]
    "itemproperty ItemPropertyEnhancementPenalty(int nPenalty);",
  declare 627 "ItemPropertyWeightReduction" 1 itemProperty [int]
    "itemproperty ItemPropertyWeightReduction(int nReduction);",
  declare 628 "ItemPropertyBonusFeat" 1 itemProperty [int]
    "itemproperty ItemPropertyBonusFeat(int nFeat);",
  declare 629 "ItemPropertyBonusLevelSpell" 2 itemProperty [int, int]
    "itemproperty ItemPropertyBonusLevelSpell(int nClass, int nSpellLevel);",
  declare 630 "ItemPropertyCastSpell" 2 itemProperty [int, int]
    "itemproperty ItemPropertyCastSpell(int nSpell, int nNumUses);",
  declare 631 "ItemPropertyDamageBonus" 2 itemProperty [int, int]
    "itemproperty ItemPropertyDamageBonus(int nDamageType, int nDamage);",
  declare 632 "ItemPropertyDamageBonusVsAlign" 3 itemProperty [int, int, int]
    "itemproperty ItemPropertyDamageBonusVsAlign(int nAlignGroup, int nDamageType, int nDamage);",
  declare 633 "ItemPropertyDamageBonusVsRace" 3 itemProperty [int, int, int]
    "itemproperty ItemPropertyDamageBonusVsRace(int nRace, int nDamageType, int nDamage);",
  declare 634 "ItemPropertyDamageBonusVsSAlign" 3 itemProperty [int, int, int]
    "itemproperty ItemPropertyDamageBonusVsSAlign(int nAlign, int nDamageType, int nDamage);",
  declare 635 "ItemPropertyDamageImmunity" 2 itemProperty [int, int]
    "itemproperty ItemPropertyDamageImmunity(int nDamageType, int nImmuneBonus);"]

end EngineActions.Shipped
